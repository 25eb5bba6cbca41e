/-!
Tokens of source text.
-/

namespace Foundry.Source

inductive TokenKind
  | name
  | keyword
  | number
  | string
  | op
  | newline
  | indent
  | dedent
  | finish
deriving DecidableEq, Repr

/-- A token with the line it starts on and the number of brackets open after it. -/
structure Token where
  kind : TokenKind
  text : String
  line : Nat
  depth : Nat
deriving DecidableEq, Repr

/-- How the scan of a text ends.

A `broken` text holds something that is no token; that outweighs every grammatical mistake. A
`misplaced` line is indented or continued in an impossible way, which matters only to a reader
that gets there; the line of the innermost open bracket stands beside it. `unclosed` says on
which line the innermost open bracket stands when the text ends. -/
inductive ScanEnd
  | finished
  | broken (line : Nat)
  | misplaced (line : Nat) (bracket : Option Nat)
  | unclosed (line bracket : Nat)
deriving DecidableEq, Repr

structure Scan where
  tokens : List Token
  stop : ScanEnd
deriving DecidableEq, Repr

end Foundry.Source
