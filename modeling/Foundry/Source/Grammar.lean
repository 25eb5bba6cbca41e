import Foundry.Source.Tree

/-!
The grammar of source text as data: parsing expressions over tokens, tried in order. Besides the
rules of the language there are rules that recognise common mistakes; they are tried only when a
text has already failed to parse, and say on which line the mistake lies.
-/

namespace Foundry.Source

/-- What may be assigned to, deleted or looped over. -/
inductive TargetUse
  | assigned
  | deleted
  | looped
deriving DecidableEq, Repr

/-- Where a recognised mistake is reported. The number is a position in the sequence that
recognised it. -/
inductive Blame
  /-- The line the part at this position starts on. -/
  | part (position : Nat)
  /-- The line of the last token looked at. -/
  | lastToken
  /-- The part of the expression at this position that cannot be a target; nothing is wrong if
  there is none. -/
  | target (position : Nat) (use : TargetUse)
  /-- A missing comma between two expressions, which is one only inside brackets. -/
  | missingComma (position : Nat)
  /-- A call of an old statement without brackets. -/
  | oldStatement (position : Nat)
  /-- The last positional argument of several, before a comprehension without brackets. -/
  | lastArgument (position : Nat)
deriving DecidableEq, Repr

/-- The rules. Those of parameter lists exist for functions and for lambda expressions. -/
inductive Symbol
  | file | statements | statement | simpleStmts | simpleStmt | compoundStmt
  | assignment | invalidAssignment | invalidHintTarget | annotatedValue | assignedValue
  | augAssign
  | returnStmt | raiseStmt | globalStmt | nonlocalStmt | delStmt | invalidDelStmt | assertStmt
  | importStmt | importName | importFrom | importFromTargets | invalidImportFromTargets
  | importFromAsNames | importFromAsName | dottedAsNames | dottedAsName | dottedName
  | block | invalidBlock | decorators | classDef | classDefRaw | invalidClassDefRaw
  | functionDef | functionDefRaw | invalidDefRaw
  | params (inLambda : Bool) | invalidParameters (inLambda : Bool)
  | invalidParametersHelper (inLambda : Bool) | parameters (inLambda : Bool)
  | slashNoDefault (inLambda : Bool) | slashWithDefault (inLambda : Bool)
  | starEtc (inLambda : Bool) | invalidStarEtc (inLambda : Bool)
  | kwds (inLambda : Bool) | invalidKwds (inLambda : Bool)
  | paramNoDefault (inLambda : Bool) | starAnnotated
  | paramWithDefault (inLambda : Bool) | paramMaybeDefault (inLambda : Bool)
  | param (inLambda : Bool) | defaultValue | invalidDefault
  | ifStmt | invalidIfStmt | elifStmt | invalidElifStmt | elseBlock | invalidElseStmt
  | whileStmt | invalidWhileStmt | forStmt | invalidForStmt | invalidForTarget
  | withStmt | invalidWithStmt | invalidWithStmtIndent | withItem | invalidWithItem
  | tryStmt | invalidTryStmt | exceptBlock | invalidExceptStmtIndent | invalidExceptStmt
  | exceptStarBlock | invalidExceptStarStmtIndent | finallyBlock | invalidFinallyStmt
  | matchStmt | invalidMatchStmt | subjectExpr | caseBlock | invalidCaseBlock | guard
  | patterns | pattern | asPattern | invalidAsPattern | orPattern | closedPattern
  | literalPattern | literalExpr | complexNumber | signedNumber | captureTarget | nameOrAttr | attr
  | sequencePattern | openSequencePattern | maybeSequencePattern | maybeStarPattern | starPattern
  | mappingPattern | keyValuePattern | doubleStarPattern | classPattern | invalidClassPattern
  | keywordPattern
  | expressions | expression | invalidExpression | invalidLegacyExpression
  | expressionWithoutInvalid | yieldExpr | starExpressions | starExpression
  | starNamedExpressions | starNamedExpression | assignmentExpression | namedExpression
  | invalidNamedExpression | disjunction | conjunction | inversion | comparison
  | bitwiseOr | bitwiseXor | bitwiseAnd | shiftExpr | sum | term | factor | power | awaitPrimary
  | primary | slices | slice | atom | group | invalidGroup | lambdef | list | listComp | tuple
  | generator | set | setComp | dict | dictComp | invalidComprehension
  | invalidDictComprehension | doubleStarredKvpairs | doubleStarredKvpair | kvpair
  | invalidDoubleStarredKvpairs | invalidKvpair | forIfClauses | forIfClause
  | arguments | invalidArguments | args | positionalArg | kwargs | starredExpression
  | kwargOrStarred | kwargOrDoubleStarred | invalidKwarg
  | starTargets | starTargetsListSeq | starTargetsTupleSeq | starTarget | targetWithStarAtom
  | starAtom | singleTarget | singleSubscriptAttributeTarget | delTargets | delTarget | delAtom
  | targetPrimary | targetLookahead
deriving DecidableEq, Repr, Hashable

/-- A parsing expression. -/
inductive Item
  /-- An operator or keyword. -/
  | literal (text : String)
  /-- A word that is a keyword in this place only. -/
  | soft (text : String)
  | name | number | strings | newline | indent | dedent | finish
  /-- A number that has to be real, or has to be imaginary. -/
  | partOfComplex (imaginary : Bool)
  /-- A string token, without reading it. -/
  | stringToken
  | symbol (s : Symbol)
  /-- A rule that is tried only when looking for mistakes. -/
  | mistake (s : Symbol)
  | seq (items : List Item)
  /-- A labelled sequence. The first present part of a `single` one stands for the whole. -/
  | node (label : Label) (items : List Item)
  | choice (alternatives : List Item)
  | optional (item : Item)
  | many (item : Item)
  | many1 (item : Item)
  /-- One or more, separated. -/
  | gather (separator item : Item)
  /-- A first operand and any number of continuations. -/
  | chain (label : Label) (first rest : Item)
  | ahead (item : Item)
  | notAhead (item : Item)
  /-- From here on no other alternative is tried. -/
  | commit
  /-- A token that has to stand here. -/
  | forced (text : String)
  /-- Any word that a keyword of certain places only starts with. -/
  | anySoft
  | blame (b : Blame)
  /-- No mistakes are looked for inside. -/
  | plainly (item : Item)

instance : Inhabited Item := ⟨.commit⟩
instance : Coe String Item := ⟨Item.literal⟩
instance : Coe Symbol Item := ⟨Item.symbol⟩

namespace Grammar

open Item Foundry.Source.Symbol

/-- Alternatives written as sequences. -/
def alts (alternatives : List (List Item)) : Item :=
  .choice (alternatives.map .seq)

/-- A mistake reported at a place. -/
def fault (items : List Item) (b : Blame) : Item :=
  .seq (items ++ [.blame b])

/-- A header without its block: the line of the token after it. -/
def noBlock (items : List Item) : Item :=
  .seq (items ++ [.newline, .notAhead .indent, .blame .lastToken])

/-- The token that ends a parameter list. -/
def closing (inLambda : Bool) : Item :=
  if inLambda then ":" else ")"

def statementRules : Symbol → Option Item
  | .file => some (node .file [optional statements, finish])
  | .statements => some (many1 statement)
  | .statement => some (choice [compoundStmt, simpleStmts])
  | .simpleStmts => some (choice [
      node .single [simpleStmt, notAhead ";", newline],
      node .line [gather ";" simpleStmt, optional ";", newline]])
  | .simpleStmt => some (choice [
      assignment,
      node .single [starExpressions],
      node .single [ahead "return", returnStmt],
      node .single [ahead (choice ["import", "from"]), importStmt],
      node .single [ahead "raise", raiseStmt],
      node .pass ["pass"],
      node .single [ahead "del", delStmt],
      node .single [ahead "yield", node .inert [yieldExpr]],
      node .single [ahead "assert", assertStmt],
      node .inert ["break"],
      node .inert ["continue"],
      node .single [ahead "global", globalStmt],
      node .single [ahead "nonlocal", nonlocalStmt]])
  | .compoundStmt => some (choice [
      node .single [ahead (choice ["def", "@", "async"]), functionDef],
      node .single [ahead "if", ifStmt],
      node .single [ahead (choice ["class", "@"]), classDef],
      node .single [ahead (choice ["with", "async"]), withStmt],
      node .single [ahead (choice ["for", "async"]), forStmt],
      node .single [ahead "try", tryStmt],
      node .single [ahead "while", whileStmt],
      matchStmt])
  | .assignment => some (choice [
      node .annotated [name, ":", expression, optional (seq ["=", annotatedValue])],
      node .annotated [
        choice [node .group ["(", singleTarget, ")"], singleSubscriptAttributeTarget],
        ":", expression, optional (seq ["=", annotatedValue])],
      node .assign [many1 (seq [starTargets, "="]), assignedValue, notAhead "="],
      node .augmented [singleTarget, augAssign, commit, assignedValue],
      mistake invalidAssignment])
  | .annotatedValue => some (choice [yieldExpr, starExpressions])
  | .assignedValue => some (choice [yieldExpr, starExpressions])
  | .augAssign => some (choice
      ["+=", "-=", "*=", "@=", "/=", "%=", "&=", "|=", "^=", "<<=", ">>=", "**=", "//="])
  | .invalidAssignment => some (choice [
      fault [invalidHintTarget, ":", expression] (.part 0),
      fault [starNamedExpression, ",", many starNamedExpressions, ":", expression] (.part 0),
      fault [expression, ":", expression] (.part 0),
      fault [many (seq [starTargets, "="]), starExpressions, "="] (.target 1 .assigned),
      fault [many (seq [starTargets, "="]), yieldExpr, "="] (.part 1),
      fault [starExpressions, augAssign, assignedValue] (.part 0)])
  | .invalidHintTarget => some (choice [
      list, tuple, node .group ["(", invalidHintTarget, ")"]])
  | .returnStmt => some (node .returns ["return", optional starExpressions])
  | .raiseStmt => some (choice [
      node .raises ["raise", expression, optional (seq ["from", expression])],
      node .raises ["raise"]])
  | .globalStmt => some (node .inert ["global", gather "," name])
  | .nonlocalStmt => some (node .inert ["nonlocal", gather "," name])
  | .delStmt => some (choice [
      node .inert ["del", delTargets, ahead (choice [";", newline])],
      mistake invalidDelStmt])
  | .invalidDelStmt => some (fault ["del", starExpressions] (.target 1 .deleted))
  | .assertStmt => some (node .inert ["assert", expression, optional (seq [",", expression])])
  | .importStmt => some (choice [importName, importFrom])
  | .importName => some (node .importNames ["import", dottedAsNames])
  | .importFrom => some (choice [
      node .importFrom ["from", many (choice [".", "..."]), dottedName, "import",
        importFromTargets],
      node .importFrom ["from", many1 (choice [".", "..."]), "import", importFromTargets]])
  | .importFromTargets => some (choice [
      node .part ["(", importFromAsNames, optional ",", ")"],
      node .single [importFromAsNames, notAhead ","],
      node .importStar ["*"],
      mistake invalidImportFromTargets])
  | .invalidImportFromTargets => some (fault [importFromAsNames, ",", newline] .lastToken)
  | .importFromAsNames => some (gather "," importFromAsName)
  | .importFromAsName => some (node .importAlias [name, optional (seq ["as", name])])
  | .dottedAsNames => some (gather "," dottedAsName)
  | .dottedAsName => some (node .importAlias [dottedName, optional (seq ["as", name])])
  | .dottedName => some (chain .dottedName name (seq [".", name]))
  | .block => some (choice [
      node .block [newline, indent, statements, dedent],
      node .single [simpleStmts],
      mistake invalidBlock])
  | .invalidBlock => some (noBlock [])
  | .decorators => some (many1 (node .decorator ["@", namedExpression, newline]))
  | .classDef => some (choice [node .decorated [decorators, classDefRaw], classDefRaw])
  | .classDefRaw => some (choice [
      mistake invalidClassDefRaw,
      node .classDef ["class", name, optional (seq ["(", optional arguments, ")"]), ":", block]])
  | .invalidClassDefRaw => some (choice [
      fault ["class", name, optional (seq ["(", optional arguments, ")"]), newline] .lastToken,
      noBlock ["class", name, optional (seq ["(", optional arguments, ")"]), ":"]])
  | .functionDef => some (choice [node .decorated [decorators, functionDefRaw], functionDefRaw])
  | .functionDefRaw => some (choice [
      mistake invalidDefRaw,
      node .functionDef ["def", name, forced "(", optional (params false), ")",
        optional (seq ["->", expression]), forced ":", block],
      node .functionDef ["async", "def", name, forced "(", optional (params false), ")",
        optional (seq ["->", expression]), forced ":", block]])
  | .invalidDefRaw => some (noBlock [optional "async", "def", name, "(", optional (params false),
      ")", optional (seq ["->", expression]), ":"])
  | .ifStmt => some (choice [
      mistake invalidIfStmt,
      node .ifElse ["if", namedExpression, ":", block, elifStmt],
      node .ifElse ["if", namedExpression, ":", block, optional elseBlock]])
  | .invalidIfStmt => some (choice [
      fault ["if", namedExpression, newline] .lastToken,
      noBlock ["if", namedExpression, ":"]])
  | .elifStmt => some (choice [
      mistake invalidElifStmt,
      node .ifElse ["elif", namedExpression, ":", block, elifStmt],
      node .ifElse ["elif", namedExpression, ":", block, optional elseBlock]])
  | .invalidElifStmt => some (choice [
      fault ["elif", namedExpression, newline] .lastToken,
      noBlock ["elif", namedExpression, ":"]])
  | .elseBlock => some (choice [
      mistake invalidElseStmt, node .elseBlock ["else", forced ":", block]])
  | .invalidElseStmt => some (noBlock ["else", ":"])
  | .whileStmt => some (choice [
      mistake invalidWhileStmt,
      node .inert ["while", namedExpression, ":", block, optional elseBlock]])
  | .invalidWhileStmt => some (choice [
      fault ["while", namedExpression, newline] .lastToken,
      noBlock ["while", namedExpression, ":"]])
  | .forStmt => some (choice [
      mistake invalidForStmt,
      node .inert ["for", starTargets, "in", commit, starExpressions, ":", block,
        optional elseBlock],
      node .inert ["async", "for", starTargets, "in", commit, starExpressions, ":", block,
        optional elseBlock],
      mistake invalidForTarget])
  | .invalidForStmt => some (choice [
      fault [optional "async", "for", starTargets, "in", starExpressions, newline] .lastToken,
      noBlock [optional "async", "for", starTargets, "in", starExpressions, ":"]])
  | .invalidForTarget => some (fault [optional "async", "for", starExpressions]
      (.target 2 .looped))
  | .withStmt => some (choice [
      mistake invalidWithStmtIndent,
      node .withBlock ["with", "(", gather "," withItem, optional ",", ")", ":", block],
      node .withBlock ["with", gather "," withItem, ":", block],
      node .inert ["async", "with", "(", gather "," withItem, optional ",", ")", ":", block],
      node .inert ["async", "with", gather "," withItem, ":", block],
      mistake invalidWithStmt])
  | .withItem => some (choice [
      seq [expression, "as", starTarget, ahead (choice [",", ")", ":"])],
      mistake invalidWithItem,
      expression])
  | .invalidWithItem => some (fault
      [expression, "as", expression, ahead (choice [",", ")", ":"])] (.target 2 .assigned))
  | .invalidWithStmt => some (choice [
      fault [optional "async", "with",
        gather "," (seq [expression, optional (seq ["as", starTarget])]), newline] .lastToken,
      fault [optional "async", "with", "(",
        gather "," (seq [expressions, optional (seq ["as", starTarget])]), optional ",", ")",
        newline] .lastToken])
  | .invalidWithStmtIndent => some (choice [
      noBlock [optional "async", "with",
        gather "," (seq [expression, optional (seq ["as", starTarget])]), ":"],
      noBlock [optional "async", "with", "(",
        gather "," (seq [expressions, optional (seq ["as", starTarget])]), optional ",", ")",
        ":"]])
  | .tryStmt => some (choice [
      mistake invalidTryStmt,
      node .tryBlock ["try", forced ":", block, finallyBlock],
      node .tryBlock ["try", forced ":", block, many1 exceptBlock, optional elseBlock,
        optional finallyBlock],
      node .inert ["try", forced ":", block, many1 exceptStarBlock, optional elseBlock,
        optional finallyBlock]])
  | .invalidTryStmt => some (choice [
      noBlock ["try", ":"],
      fault ["try", ":", block, notAhead (choice ["except", "finally"])] .lastToken,
      fault ["try", ":", many block,
        choice [seq [many1 exceptBlock, exceptStarBlock], seq [many1 exceptStarBlock, exceptBlock]],
        many block] .lastToken])
  | .exceptBlock => some (choice [
      mistake invalidExceptStmtIndent,
      node .handler ["except", expression, optional (seq ["as", name]), ":", block],
      node .handler ["except", ":", block],
      mistake invalidExceptStmt])
  | .invalidExceptStmtIndent => some (choice [
      noBlock ["except", expression, optional (seq ["as", name]), ":"],
      noBlock ["except", ":"]])
  | .invalidExceptStmt => some (choice [
      fault ["except", optional "*", expression, ",", expressions, optional (seq ["as", name]),
        ":"] (.part 2),
      fault ["except", optional "*", expression, optional (seq ["as", name]), newline] .lastToken,
      fault ["except", newline] .lastToken,
      fault ["except", "*", choice [newline, ":"]] .lastToken])
  | .exceptStarBlock => some (choice [
      mistake invalidExceptStarStmtIndent,
      node .handler ["except", "*", expression, optional (seq ["as", name]), ":", block],
      mistake invalidExceptStmt])
  | .invalidExceptStarStmtIndent => some
      (noBlock ["except", "*", expression, optional (seq ["as", name]), ":"])
  | .finallyBlock => some (choice [
      mistake invalidFinallyStmt, node .finallyBlock ["finally", forced ":", block]])
  | .invalidFinallyStmt => some (noBlock ["finally", ":"])
  | _ => none

def patternRules : Symbol → Option Item
  | .matchStmt => some (choice [
      node .inert [soft "match", subjectExpr, ":", newline, indent, many1 caseBlock, dedent],
      mistake invalidMatchStmt])
  | .invalidMatchStmt => some (choice [
      fault [soft "match", subjectExpr, newline] .lastToken,
      noBlock [soft "match", subjectExpr, ":"]])
  | .subjectExpr => some (choice [
      seq [starNamedExpression, ",", optional starNamedExpressions], namedExpression])
  | .caseBlock => some (choice [
      mistake invalidCaseBlock,
      seq [soft "case", patterns, optional guard, ":", block]])
  | .invalidCaseBlock => some (choice [
      fault [soft "case", patterns, optional guard, newline] .lastToken,
      noBlock [soft "case", patterns, optional guard, ":"]])
  | .guard => some (seq ["if", namedExpression])
  | .patterns => some (choice [openSequencePattern, pattern])
  | .pattern => some (choice [asPattern, orPattern])
  | .asPattern => some (choice [
      seq [orPattern, "as", captureTarget], mistake invalidAsPattern])
  | .invalidAsPattern => some (choice [
      fault [orPattern, "as", soft "_"] (.part 2),
      fault [orPattern, "as", notAhead name, expression] (.part 3)])
  | .orPattern => some (gather "|" closedPattern)
  | .closedPattern => some (choice [
      literalPattern, captureTarget, soft "_",
      seq [attr, notAhead (choice [".", "(", "="])],
      seq ["(", pattern, ")"],
      sequencePattern, mappingPattern, classPattern])
  | .literalPattern => some (choice [
      seq [signedNumber, notAhead (choice ["+", "-"])], complexNumber, strings,
      "None", "True", "False"])
  | .literalExpr => some (choice [
      seq [signedNumber, notAhead (choice ["+", "-"])], complexNumber, strings,
      "None", "True", "False"])
  | .complexNumber => some (seq [
      choice [partOfComplex false, seq ["-", partOfComplex false]], choice ["+", "-"],
      partOfComplex true])
  | .signedNumber => some (choice [number, seq ["-", number]])
  | .captureTarget => some (seq [notAhead (soft "_"), name, notAhead (choice [".", "(", "="])])
  | .nameOrAttr => some (chain .part name (seq [".", name]))
  | .attr => some (seq [name, many1 (seq [".", name])])
  | .sequencePattern => some (choice [
      seq ["[", optional maybeSequencePattern, "]"],
      seq ["(", optional openSequencePattern, ")"]])
  | .openSequencePattern => some (seq [maybeStarPattern, ",", optional maybeSequencePattern])
  | .maybeSequencePattern => some (seq [gather "," maybeStarPattern, optional ","])
  | .maybeStarPattern => some (choice [starPattern, pattern])
  | .starPattern => some (choice [seq ["*", captureTarget], seq ["*", soft "_"]])
  | .mappingPattern => some (alts [
      ["\x7b", "\x7d"],
      ["\x7b", doubleStarPattern, optional ",", "\x7d"],
      ["\x7b", gather "," keyValuePattern, ",", doubleStarPattern, optional ",", "\x7d"],
      ["\x7b", gather "," keyValuePattern, optional ",", "\x7d"]])
  | .keyValuePattern => some (seq [choice [literalExpr, attr], ":", pattern])
  | .doubleStarPattern => some (seq ["**", captureTarget])
  | .classPattern => some (choice [
      seq [nameOrAttr, "(", ")"],
      seq [nameOrAttr, "(", gather "," pattern, optional ",", ")"],
      seq [nameOrAttr, "(", gather "," keywordPattern, optional ",", ")"],
      seq [nameOrAttr, "(", gather "," pattern, ",", gather "," keywordPattern, optional ",", ")"],
      mistake invalidClassPattern])
  | .invalidClassPattern => some (fault
      [nameOrAttr, "(", optional (seq [gather "," pattern, ","]), gather "," keywordPattern, ",",
        gather "," pattern] (.part 5))
  | .keywordPattern => some (seq [name, "=", pattern])
  | _ => none

def parameterRules : Symbol → Option Item
  | .params l => some (choice [mistake (invalidParameters l), parameters l])
  | .invalidParameters l => some (choice [
      fault [many (paramNoDefault l), invalidParametersHelper l, paramNoDefault l] (.part 2),
      if l then
        fault [many (paramNoDefault l), "(", gather "," (param l), optional ",", ")"] (.part 1)
      else
        fault [many (paramNoDefault l), "(", many1 (paramNoDefault l), optional ",", ")"] (.part 1),
      fault ["/", ","] (.part 0),
      fault [choice [slashNoDefault l, slashWithDefault l], many (paramMaybeDefault l), "/"]
        (.part 2),
      fault [optional (choice [slashNoDefault l, slashWithDefault l]), many (paramMaybeDefault l),
        "*", choice [",", paramNoDefault l], many (paramMaybeDefault l), "/"] (.part 5),
      fault [many1 (paramMaybeDefault l), "/", "*"] (.part 2)])
  | .invalidParametersHelper l => some (choice [slashWithDefault l, many1 (paramWithDefault l)])
  | .parameters l => some (choice [
      node .params [slashNoDefault l, many (paramNoDefault l), many (paramWithDefault l),
        optional (starEtc l)],
      node .params [slashWithDefault l, many (paramWithDefault l), optional (starEtc l)],
      node .params [many1 (paramNoDefault l), many (paramWithDefault l), optional (starEtc l)],
      node .params [many1 (paramWithDefault l), optional (starEtc l)],
      node .params [starEtc l]])
  | .slashNoDefault l => some (choice [
      node .slash [many1 (paramNoDefault l), "/", ","],
      node .slash [many1 (paramNoDefault l), "/", ahead (closing l)]])
  | .slashWithDefault l => some (choice [
      node .slash [many (paramNoDefault l), many1 (paramWithDefault l), "/", ","],
      node .slash [many (paramNoDefault l), many1 (paramWithDefault l), "/", ahead (closing l)]])
  | .starEtc l => some (choice ([
      mistake (invalidStarEtc l),
      node .starParam ["*", paramNoDefault l, many (paramMaybeDefault l), optional (kwds l)]] ++
      (if l then [] else [
        node .starParam ["*", starAnnotated, many (paramMaybeDefault l),
          optional (kwds l)]]) ++ [
      node .bareStar ["*", ",", many1 (paramMaybeDefault l), optional (kwds l)],
      kwds l]))
  | .invalidStarEtc l => some (choice [
      fault ["*", choice [closing l, seq [",", choice [closing l, "**"]]]]
        (if l then .lastToken else .part 0),
      fault ["*", param l, "="] (.part 2),
      fault ["*", choice [paramNoDefault l, ","], many (paramMaybeDefault l), "*",
        choice [paramNoDefault l, ","]] (.part 3)])
  | .kwds l => some (choice [
      mistake (invalidKwds l), node .kwParam ["**", paramNoDefault l]])
  | .invalidKwds l => some (choice [
      fault ["**", param l, "="] (.part 2),
      fault ["**", param l, ",", param l] (.part 3),
      fault ["**", param l, ",", choice ["*", "**", "/"]] (.part 3)])
  | .paramNoDefault l => some (choice [
      node .plainParam [param l, ","], node .plainParam [param l, ahead (closing l)]])
  | .starAnnotated => some (choice [
      node .plainParam [node .param [name, optional (seq [":", starExpression])], ","],
      node .plainParam [node .param [name, optional (seq [":", starExpression])], ahead ")"]])
  | .paramWithDefault l => some (choice [
      node .defaultParam [param l, defaultValue, ","],
      node .defaultParam [param l, defaultValue, ahead (closing l)]])
  | .paramMaybeDefault l => some (choice [
      node .defaultParam [param l, optional defaultValue, ","],
      node .defaultParam [param l, optional defaultValue, ahead (closing l)]])
  | .param l => some (if l then node .param [name] else
      node .param [name, optional (seq [":", expression])])
  | .defaultValue => some (choice [seq ["=", expression], mistake invalidDefault])
  | .invalidDefault => some (fault ["=", ahead (choice [")", ","])] (.part 0))
  | _ => none

def expressionRules : Symbol → Option Item
  | .expressions => some (choice [
      node .tuple [expression, many1 (seq [",", expression]), optional ","],
      node .tuple [expression, ","],
      expression])
  | .expression => some (choice [
      mistake invalidExpression,
      mistake invalidLegacyExpression,
      node .conditional [disjunction, "if", disjunction, "else", expression],
      disjunction,
      lambdef])
  | .invalidExpression => some (choice [
      fault [notAhead (choice [seq [name, stringToken], anySoft]), disjunction,
        expressionWithoutInvalid] (.missingComma 1),
      fault [disjunction, "if", disjunction, notAhead (choice ["else", ":"])] (.part 0)])
  | .invalidLegacyExpression => some (fault [name, notAhead "(", starExpressions]
      (.oldStatement 0))
  | .expressionWithoutInvalid => some (plainly (choice [
      node .conditional [disjunction, "if", disjunction, "else", expression],
      disjunction,
      lambdef]))
  | .yieldExpr => some (choice [
      node .yieldFrom ["yield", "from", expression],
      node .yield ["yield", optional starExpressions]])
  | .starExpressions => some (choice [
      node .tuple [starExpression, many1 (seq [",", starExpression]), optional ","],
      node .tuple [starExpression, ","],
      starExpression])
  | .starExpression => some (choice [node .starredItem ["*", bitwiseOr], expression])
  | .starNamedExpressions => some (seq [gather "," starNamedExpression, optional ","])
  | .starNamedExpression => some (choice [node .starredItem ["*", bitwiseOr], namedExpression])
  | .assignmentExpression => some (node .named [name, ":=", commit, expression])
  | .namedExpression => some (choice [
      assignmentExpression,
      mistake invalidNamedExpression,
      node .single [expression, notAhead ":="]])
  | .invalidNamedExpression => some (choice [
      fault [expression, ":=", expression] (.part 0),
      fault [name, "=", bitwiseOr, notAhead (choice ["=", ":="])] (.part 0),
      fault [notAhead (choice [list, tuple, generator, "True", "None", "False"]), bitwiseOr, "=",
        bitwiseOr, notAhead (choice ["=", ":="])] (.part 1)])
  | .disjunction => some (chain .orChain conjunction (seq ["or", conjunction]))
  | .conjunction => some (chain .andChain inversion (seq ["and", inversion]))
  | .inversion => some (choice [node .notOp ["not", inversion], comparison])
  | .comparison => some (chain .comparison bitwiseOr (choice [
      node .compareTail [choice ["==", "!=", "<=", "<", ">=", ">"], bitwiseOr],
      node .compareTail [seq ["not", "in"], bitwiseOr],
      node .compareTail ["in", bitwiseOr],
      node .compareTail [seq ["is", "not"], bitwiseOr],
      node .compareTail ["is", bitwiseOr]]))
  | .bitwiseOr => some (chain .bitOrChain bitwiseXor (seq ["|", bitwiseXor]))
  | .bitwiseXor => some (chain .bitXorChain bitwiseAnd (seq ["^", bitwiseAnd]))
  | .bitwiseAnd => some (chain .bitAndChain shiftExpr (seq ["&", shiftExpr]))
  | .shiftExpr => some (chain .shiftChain Symbol.sum
      (choice [seq ["<<", Symbol.sum], seq [">>", Symbol.sum]]))
  | .sum => some (chain .sumChain term (choice [seq ["+", term], seq ["-", term]]))
  | .term => some (chain .termChain factor (choice [
      seq ["*", factor], seq ["/", factor], seq ["//", factor], seq ["%", factor],
      seq ["@", factor]]))
  | .factor => some (choice [
      node .unary ["+", factor], node .unary ["-", factor], node .unary ["~", factor],
      Symbol.power])
  | .power => some (choice [
      node .power [awaitPrimary, "**", factor], awaitPrimary])
  | .awaitPrimary => some (choice [node .awaits ["await", primary], primary])
  | .primary => some (chain .primary atom (choice [
      node .member [".", name],
      node .callGenerator [generator],
      node .call ["(", optional arguments, ")"],
      node .subscript ["[", slices, "]"]]))
  | .slices => some (choice [
      node .single [Symbol.slice, notAhead ","],
      node .slices [gather "," (choice [Symbol.slice, starredExpression]), optional ","]])
  | .slice => some (choice [
      node .slice [optional expression, ":", optional expression,
        optional (seq [":", optional expression])],
      namedExpression])
  | .atom => some (choice [
      name, "True", "False", "None", strings, number,
      node .single [ahead "(", choice [Symbol.tuple, Symbol.group, Symbol.generator]],
      node .single [ahead "[", choice [Symbol.list, Symbol.listComp]],
      node .single
        [ahead "\x7b", choice [Symbol.dict, Symbol.set, Symbol.dictComp, Symbol.setComp]],
      "..."])
  | .group => some (choice [
      node .group ["(", choice [yieldExpr, namedExpression], ")"], mistake invalidGroup])
  | .invalidGroup => some (choice [
      fault ["(", starredExpression, ")"] (.part 1),
      fault ["(", "**", expression, ")"] (.part 1)])
  | .lambdef => some (node .lambda ["lambda", optional (params true), ":", expression])
  | .list => some (node .list ["[", optional starNamedExpressions, "]"])
  | .listComp => some (choice [
      node .listComp ["[", namedExpression, forIfClauses, "]"], mistake invalidComprehension])
  | .tuple => some (choice [
      node .tuple ["(", seq [starNamedExpression, ",", optional starNamedExpressions], ")"],
      node .emptyTuple ["(", ")"]])
  | .generator => some (choice [
      node .generator ["(", choice [assignmentExpression,
        node .single [expression, notAhead ":="]], forIfClauses, ")"],
      mistake invalidComprehension])
  | .set => some (node .set ["\x7b", starNamedExpressions, "\x7d"])
  | .setComp => some (choice [
      node .setComp ["\x7b", namedExpression, forIfClauses, "\x7d"],
      mistake invalidComprehension])
  | .dict => some (choice [
      node .dict ["\x7b", optional doubleStarredKvpairs, "\x7d"],
      seq ["\x7b", mistake invalidDoubleStarredKvpairs, "\x7d"]])
  | .dictComp => some (choice [
      node .dictComp ["\x7b", kvpair, forIfClauses, "\x7d"], mistake invalidDictComprehension])
  | .invalidComprehension => some (choice [
      fault [choice ["[", "(", "\x7b"], starredExpression, forIfClauses] (.part 1),
      fault [choice ["[", "\x7b"], starNamedExpression, ",", starNamedExpressions, forIfClauses]
        (.part 1),
      fault [choice ["[", "\x7b"], starNamedExpression, ",", forIfClauses] (.part 1)])
  | .invalidDictComprehension => some
      (fault ["\x7b", "**", bitwiseOr, forIfClauses, "\x7d"] (.part 1))
  | .doubleStarredKvpairs => some (seq [gather "," doubleStarredKvpair, optional ","])
  | .doubleStarredKvpair => some (choice [node .spread ["**", bitwiseOr], kvpair])
  | .kvpair => some (node .entry [expression, ":", expression])
  | .invalidDoubleStarredKvpairs => some (choice [
      seq [gather "," doubleStarredKvpair, ",", invalidKvpair],
      fault [expression, ":", "*", bitwiseOr] (.part 2),
      fault [expression, ":", ahead (choice ["\x7d", ","])] (.part 1)])
  | .invalidKvpair => some (choice [
      fault [expression, notAhead ":"] (.part 0),
      fault [expression, ":", "*", bitwiseOr] (.part 2),
      fault [expression, ":", ahead (choice ["\x7d", ","])] (.part 1)])
  | .forIfClauses => some (many1 forIfClause)
  | .forIfClause => some (choice [
      node .asyncClause ["async", "for", starTargets, "in", commit, disjunction,
        many (seq ["if", disjunction])],
      node .clause ["for", starTargets, "in", commit, disjunction,
        many (seq ["if", disjunction])],
      mistake invalidForTarget])
  | .arguments => some (choice [
      node .single [args, optional ",", ahead ")"], mistake invalidArguments])
  | .invalidArguments => some (choice [
      fault [args, ",", "*"] (.part 0),
      fault [expression, forIfClauses, ",",
        optional (choice [args, seq [expression, forIfClauses]])] (.part 0),
      fault [name, "=", expression, forIfClauses] (.part 0),
      fault [args, forIfClauses] (.lastArgument 0),
      fault [args, ",", expression, forIfClauses] (.part 2),
      fault [args, ",", args] .lastToken])
  | .args => some (choice [
      node .arguments [gather "," positionalArg, optional (seq [",", kwargs])],
      node .arguments [kwargs]])
  | .positionalArg => some (choice [
      starredExpression,
      node .single [choice [assignmentExpression, node .single [expression, notAhead ":="]],
        notAhead "="]])
  | .kwargs => some (choice [
      seq [gather "," kwargOrStarred, ",", gather "," kwargOrDoubleStarred],
      gather "," kwargOrStarred,
      gather "," kwargOrDoubleStarred])
  | .starredExpression => some (node .starArg ["*", expression])
  | .kwargOrStarred => some (choice [
      mistake invalidKwarg,
      node .keywordArg [name, "=", expression],
      starredExpression])
  | .kwargOrDoubleStarred => some (choice [
      mistake invalidKwarg,
      node .keywordArg [name, "=", expression],
      node .spreadArg ["**", expression]])
  | .invalidKwarg => some (choice [
      fault [choice ["True", "False", "None"], "="] (.part 0),
      fault [name, "=", expression, forIfClauses] (.part 0),
      fault [notAhead (seq [name, "="]), expression, "="] (.part 1)])
  | _ => none

def targetRules : Symbol → Option Item
  | .starTargets => some (choice [
      node .single [starTarget, notAhead ","],
      node .tuple [starTarget, many (seq [",", starTarget]), optional ","]])
  | .starTargetsListSeq => some (seq [gather "," starTarget, optional ","])
  | .starTargetsTupleSeq => some (choice [
      seq [starTarget, many1 (seq [",", starTarget]), optional ","],
      seq [starTarget, ","]])
  | .starTarget => some (choice [
      node .starredItem ["*", node .single [starTarget]], targetWithStarAtom])
  | .targetWithStarAtom => some (choice [
      node .primary [targetPrimary, node .member [".", name], notAhead targetLookahead],
      node .primary [targetPrimary, node .subscript ["[", slices, "]"],
        notAhead targetLookahead],
      starAtom])
  | .starAtom => some (choice [
      name,
      node .group ["(", targetWithStarAtom, ")"],
      node .tuple ["(", optional starTargetsTupleSeq, ")"],
      node .list ["[", optional starTargetsListSeq, "]"]])
  | .singleTarget => some (choice [
      singleSubscriptAttributeTarget, name, node .group ["(", singleTarget, ")"]])
  | .singleSubscriptAttributeTarget => some (choice [
      node .primary [targetPrimary, node .member [".", name], notAhead targetLookahead],
      node .primary [targetPrimary, node .subscript ["[", slices, "]"],
        notAhead targetLookahead]])
  | .delTargets => some (seq [gather "," delTarget, optional ","])
  | .delTarget => some (choice [
      node .primary [targetPrimary, node .member [".", name], notAhead targetLookahead],
      node .primary [targetPrimary, node .subscript ["[", slices, "]"],
        notAhead targetLookahead],
      delAtom])
  | .delAtom => some (choice [
      name,
      node .group ["(", delTarget, ")"],
      node .tuple ["(", optional delTargets, ")"],
      node .list ["[", optional delTargets, "]"]])
  | .targetPrimary => some (chain .primary
      (node .single [atom, ahead targetLookahead])
      (choice [
        node .single [node .member [".", name], ahead targetLookahead],
        node .single [node .subscript ["[", slices, "]"], ahead targetLookahead],
        node .single [node .callGenerator [generator], ahead targetLookahead],
        node .single [node .call ["(", optional arguments, ")"], ahead targetLookahead]]))
  | .targetLookahead => some (choice ["(", "[", "."])
  | _ => none

/-- The parsing expression of a rule. -/
def rule (s : Symbol) : Item :=
  match expressionRules s with
  | some item => item
  | none =>
    match targetRules s with
    | some item => item
    | none =>
      match statementRules s with
      | some item => item
      | none =>
        match parameterRules s with
        | some item => item
        | none => (patternRules s).getD (.choice [])

/-- Rules whose outcome at a position is remembered. -/
def isRemembered : Symbol → Bool
  | .simpleStmt | .block | .expression | .starExpression | .disjunction | .conjunction
  | .inversion | .bitwiseOr | .bitwiseXor | .bitwiseAnd | .shiftExpr | .sum | .term | .factor
  | .awaitPrimary | .primary | .arguments | .starTarget | .targetWithStarAtom | .targetPrimary
  | .delTarget | .invalidNamedExpression | .closedPattern | .starPattern | .dottedName
  | .nameOrAttr | .attr | .comparison | .lambdef => true
  | _ => false

end Grammar

end Foundry.Source
