/-!
Characters by their names.
-/

namespace Foundry.Text

/-- Names of the characters of Latin, Greek, punctuation, currency, arrows and symbols. -/
def characterNames : List (String × Nat) := [
  ("SPACE", 32), ("EXCLAMATION MARK", 33), ("QUOTATION MARK", 34), ("NUMBER SIGN", 35),
  ("DOLLAR SIGN", 36), ("PERCENT SIGN", 37), ("AMPERSAND", 38), ("APOSTROPHE", 39),
  ("LEFT PARENTHESIS", 40), ("RIGHT PARENTHESIS", 41), ("ASTERISK", 42), ("PLUS SIGN", 43),
  ("COMMA", 44), ("HYPHEN-MINUS", 45), ("FULL STOP", 46), ("SOLIDUS", 47), ("DIGIT ZERO", 48),
  ("DIGIT ONE", 49), ("DIGIT TWO", 50), ("DIGIT THREE", 51), ("DIGIT FOUR", 52),
  ("DIGIT FIVE", 53), ("DIGIT SIX", 54), ("DIGIT SEVEN", 55), ("DIGIT EIGHT", 56),
  ("DIGIT NINE", 57), ("COLON", 58), ("SEMICOLON", 59), ("LESS-THAN SIGN", 60),
  ("EQUALS SIGN", 61), ("GREATER-THAN SIGN", 62), ("QUESTION MARK", 63), ("COMMERCIAL AT", 64),
  ("LATIN CAPITAL LETTER A", 65), ("LATIN CAPITAL LETTER B", 66), ("LATIN CAPITAL LETTER C", 67),
  ("LATIN CAPITAL LETTER D", 68), ("LATIN CAPITAL LETTER E", 69), ("LATIN CAPITAL LETTER F", 70),
  ("LATIN CAPITAL LETTER G", 71), ("LATIN CAPITAL LETTER H", 72), ("LATIN CAPITAL LETTER I", 73),
  ("LATIN CAPITAL LETTER J", 74), ("LATIN CAPITAL LETTER K", 75), ("LATIN CAPITAL LETTER L", 76),
  ("LATIN CAPITAL LETTER M", 77), ("LATIN CAPITAL LETTER N", 78), ("LATIN CAPITAL LETTER O", 79),
  ("LATIN CAPITAL LETTER P", 80), ("LATIN CAPITAL LETTER Q", 81), ("LATIN CAPITAL LETTER R", 82),
  ("LATIN CAPITAL LETTER S", 83), ("LATIN CAPITAL LETTER T", 84), ("LATIN CAPITAL LETTER U", 85),
  ("LATIN CAPITAL LETTER V", 86), ("LATIN CAPITAL LETTER W", 87), ("LATIN CAPITAL LETTER X", 88),
  ("LATIN CAPITAL LETTER Y", 89), ("LATIN CAPITAL LETTER Z", 90), ("LEFT SQUARE BRACKET", 91),
  ("REVERSE SOLIDUS", 92), ("RIGHT SQUARE BRACKET", 93), ("CIRCUMFLEX ACCENT", 94),
  ("LOW LINE", 95), ("GRAVE ACCENT", 96), ("LATIN SMALL LETTER A", 97),
  ("LATIN SMALL LETTER B", 98), ("LATIN SMALL LETTER C", 99), ("LATIN SMALL LETTER D", 100),
  ("LATIN SMALL LETTER E", 101), ("LATIN SMALL LETTER F", 102), ("LATIN SMALL LETTER G", 103),
  ("LATIN SMALL LETTER H", 104), ("LATIN SMALL LETTER I", 105), ("LATIN SMALL LETTER J", 106),
  ("LATIN SMALL LETTER K", 107), ("LATIN SMALL LETTER L", 108), ("LATIN SMALL LETTER M", 109),
  ("LATIN SMALL LETTER N", 110), ("LATIN SMALL LETTER O", 111), ("LATIN SMALL LETTER P", 112),
  ("LATIN SMALL LETTER Q", 113), ("LATIN SMALL LETTER R", 114), ("LATIN SMALL LETTER S", 115),
  ("LATIN SMALL LETTER T", 116), ("LATIN SMALL LETTER U", 117), ("LATIN SMALL LETTER V", 118),
  ("LATIN SMALL LETTER W", 119), ("LATIN SMALL LETTER X", 120), ("LATIN SMALL LETTER Y", 121),
  ("LATIN SMALL LETTER Z", 122), ("LEFT CURLY BRACKET", 123), ("VERTICAL LINE", 124),
  ("RIGHT CURLY BRACKET", 125), ("TILDE", 126), ("NO-BREAK SPACE", 160),
  ("INVERTED EXCLAMATION MARK", 161), ("CENT SIGN", 162), ("POUND SIGN", 163),
  ("CURRENCY SIGN", 164), ("YEN SIGN", 165), ("BROKEN BAR", 166), ("SECTION SIGN", 167),
  ("DIAERESIS", 168), ("COPYRIGHT SIGN", 169), ("FEMININE ORDINAL INDICATOR", 170),
  ("LEFT-POINTING DOUBLE ANGLE QUOTATION MARK", 171), ("NOT SIGN", 172), ("SOFT HYPHEN", 173),
  ("REGISTERED SIGN", 174), ("MACRON", 175), ("DEGREE SIGN", 176), ("PLUS-MINUS SIGN", 177),
  ("SUPERSCRIPT TWO", 178), ("SUPERSCRIPT THREE", 179), ("ACUTE ACCENT", 180),
  ("MICRO SIGN", 181), ("PILCROW SIGN", 182), ("MIDDLE DOT", 183), ("CEDILLA", 184),
  ("SUPERSCRIPT ONE", 185), ("MASCULINE ORDINAL INDICATOR", 186),
  ("RIGHT-POINTING DOUBLE ANGLE QUOTATION MARK", 187), ("VULGAR FRACTION ONE QUARTER", 188),
  ("VULGAR FRACTION ONE HALF", 189), ("VULGAR FRACTION THREE QUARTERS", 190),
  ("INVERTED QUESTION MARK", 191), ("LATIN CAPITAL LETTER A WITH GRAVE", 192),
  ("LATIN CAPITAL LETTER A WITH ACUTE", 193), ("LATIN CAPITAL LETTER A WITH CIRCUMFLEX", 194),
  ("LATIN CAPITAL LETTER A WITH TILDE", 195), ("LATIN CAPITAL LETTER A WITH DIAERESIS", 196),
  ("LATIN CAPITAL LETTER A WITH RING ABOVE", 197), ("LATIN CAPITAL LETTER AE", 198),
  ("LATIN CAPITAL LETTER C WITH CEDILLA", 199), ("LATIN CAPITAL LETTER E WITH GRAVE", 200),
  ("LATIN CAPITAL LETTER E WITH ACUTE", 201), ("LATIN CAPITAL LETTER E WITH CIRCUMFLEX", 202),
  ("LATIN CAPITAL LETTER E WITH DIAERESIS", 203), ("LATIN CAPITAL LETTER I WITH GRAVE", 204),
  ("LATIN CAPITAL LETTER I WITH ACUTE", 205), ("LATIN CAPITAL LETTER I WITH CIRCUMFLEX", 206),
  ("LATIN CAPITAL LETTER I WITH DIAERESIS", 207), ("LATIN CAPITAL LETTER ETH", 208),
  ("LATIN CAPITAL LETTER N WITH TILDE", 209), ("LATIN CAPITAL LETTER O WITH GRAVE", 210),
  ("LATIN CAPITAL LETTER O WITH ACUTE", 211), ("LATIN CAPITAL LETTER O WITH CIRCUMFLEX", 212),
  ("LATIN CAPITAL LETTER O WITH TILDE", 213), ("LATIN CAPITAL LETTER O WITH DIAERESIS", 214),
  ("MULTIPLICATION SIGN", 215), ("LATIN CAPITAL LETTER O WITH STROKE", 216),
  ("LATIN CAPITAL LETTER U WITH GRAVE", 217), ("LATIN CAPITAL LETTER U WITH ACUTE", 218),
  ("LATIN CAPITAL LETTER U WITH CIRCUMFLEX", 219), ("LATIN CAPITAL LETTER U WITH DIAERESIS", 220),
  ("LATIN CAPITAL LETTER Y WITH ACUTE", 221), ("LATIN CAPITAL LETTER THORN", 222),
  ("LATIN SMALL LETTER SHARP S", 223), ("LATIN SMALL LETTER A WITH GRAVE", 224),
  ("LATIN SMALL LETTER A WITH ACUTE", 225), ("LATIN SMALL LETTER A WITH CIRCUMFLEX", 226),
  ("LATIN SMALL LETTER A WITH TILDE", 227), ("LATIN SMALL LETTER A WITH DIAERESIS", 228),
  ("LATIN SMALL LETTER A WITH RING ABOVE", 229), ("LATIN SMALL LETTER AE", 230),
  ("LATIN SMALL LETTER C WITH CEDILLA", 231), ("LATIN SMALL LETTER E WITH GRAVE", 232),
  ("LATIN SMALL LETTER E WITH ACUTE", 233), ("LATIN SMALL LETTER E WITH CIRCUMFLEX", 234),
  ("LATIN SMALL LETTER E WITH DIAERESIS", 235), ("LATIN SMALL LETTER I WITH GRAVE", 236),
  ("LATIN SMALL LETTER I WITH ACUTE", 237), ("LATIN SMALL LETTER I WITH CIRCUMFLEX", 238),
  ("LATIN SMALL LETTER I WITH DIAERESIS", 239), ("LATIN SMALL LETTER ETH", 240),
  ("LATIN SMALL LETTER N WITH TILDE", 241), ("LATIN SMALL LETTER O WITH GRAVE", 242),
  ("LATIN SMALL LETTER O WITH ACUTE", 243), ("LATIN SMALL LETTER O WITH CIRCUMFLEX", 244),
  ("LATIN SMALL LETTER O WITH TILDE", 245), ("LATIN SMALL LETTER O WITH DIAERESIS", 246),
  ("DIVISION SIGN", 247), ("LATIN SMALL LETTER O WITH STROKE", 248),
  ("LATIN SMALL LETTER U WITH GRAVE", 249), ("LATIN SMALL LETTER U WITH ACUTE", 250),
  ("LATIN SMALL LETTER U WITH CIRCUMFLEX", 251), ("LATIN SMALL LETTER U WITH DIAERESIS", 252),
  ("LATIN SMALL LETTER Y WITH ACUTE", 253), ("LATIN SMALL LETTER THORN", 254),
  ("LATIN SMALL LETTER Y WITH DIAERESIS", 255), ("GREEK CAPITAL LETTER HETA", 880),
  ("GREEK SMALL LETTER HETA", 881), ("GREEK CAPITAL LETTER ARCHAIC SAMPI", 882),
  ("GREEK SMALL LETTER ARCHAIC SAMPI", 883), ("GREEK NUMERAL SIGN", 884),
  ("GREEK LOWER NUMERAL SIGN", 885), ("GREEK CAPITAL LETTER PAMPHYLIAN DIGAMMA", 886),
  ("GREEK SMALL LETTER PAMPHYLIAN DIGAMMA", 887), ("GREEK YPOGEGRAMMENI", 890),
  ("GREEK SMALL REVERSED LUNATE SIGMA SYMBOL", 891),
  ("GREEK SMALL DOTTED LUNATE SIGMA SYMBOL", 892),
  ("GREEK SMALL REVERSED DOTTED LUNATE SIGMA SYMBOL", 893), ("GREEK QUESTION MARK", 894),
  ("GREEK CAPITAL LETTER YOT", 895), ("GREEK TONOS", 900), ("GREEK DIALYTIKA TONOS", 901),
  ("GREEK CAPITAL LETTER ALPHA WITH TONOS", 902), ("GREEK ANO TELEIA", 903),
  ("GREEK CAPITAL LETTER EPSILON WITH TONOS", 904), ("GREEK CAPITAL LETTER ETA WITH TONOS", 905),
  ("GREEK CAPITAL LETTER IOTA WITH TONOS", 906), ("GREEK CAPITAL LETTER OMICRON WITH TONOS", 908),
  ("GREEK CAPITAL LETTER UPSILON WITH TONOS", 910),
  ("GREEK CAPITAL LETTER OMEGA WITH TONOS", 911),
  ("GREEK SMALL LETTER IOTA WITH DIALYTIKA AND TONOS", 912), ("GREEK CAPITAL LETTER ALPHA", 913),
  ("GREEK CAPITAL LETTER BETA", 914), ("GREEK CAPITAL LETTER GAMMA", 915),
  ("GREEK CAPITAL LETTER DELTA", 916), ("GREEK CAPITAL LETTER EPSILON", 917),
  ("GREEK CAPITAL LETTER ZETA", 918), ("GREEK CAPITAL LETTER ETA", 919),
  ("GREEK CAPITAL LETTER THETA", 920), ("GREEK CAPITAL LETTER IOTA", 921),
  ("GREEK CAPITAL LETTER KAPPA", 922), ("GREEK CAPITAL LETTER LAMDA", 923),
  ("GREEK CAPITAL LETTER MU", 924), ("GREEK CAPITAL LETTER NU", 925),
  ("GREEK CAPITAL LETTER XI", 926), ("GREEK CAPITAL LETTER OMICRON", 927),
  ("GREEK CAPITAL LETTER PI", 928), ("GREEK CAPITAL LETTER RHO", 929),
  ("GREEK CAPITAL LETTER SIGMA", 931), ("GREEK CAPITAL LETTER TAU", 932),
  ("GREEK CAPITAL LETTER UPSILON", 933), ("GREEK CAPITAL LETTER PHI", 934),
  ("GREEK CAPITAL LETTER CHI", 935), ("GREEK CAPITAL LETTER PSI", 936),
  ("GREEK CAPITAL LETTER OMEGA", 937), ("GREEK CAPITAL LETTER IOTA WITH DIALYTIKA", 938),
  ("GREEK CAPITAL LETTER UPSILON WITH DIALYTIKA", 939),
  ("GREEK SMALL LETTER ALPHA WITH TONOS", 940), ("GREEK SMALL LETTER EPSILON WITH TONOS", 941),
  ("GREEK SMALL LETTER ETA WITH TONOS", 942), ("GREEK SMALL LETTER IOTA WITH TONOS", 943),
  ("GREEK SMALL LETTER UPSILON WITH DIALYTIKA AND TONOS", 944), ("GREEK SMALL LETTER ALPHA", 945),
  ("GREEK SMALL LETTER BETA", 946), ("GREEK SMALL LETTER GAMMA", 947),
  ("GREEK SMALL LETTER DELTA", 948), ("GREEK SMALL LETTER EPSILON", 949),
  ("GREEK SMALL LETTER ZETA", 950), ("GREEK SMALL LETTER ETA", 951),
  ("GREEK SMALL LETTER THETA", 952), ("GREEK SMALL LETTER IOTA", 953),
  ("GREEK SMALL LETTER KAPPA", 954), ("GREEK SMALL LETTER LAMDA", 955),
  ("GREEK SMALL LETTER MU", 956), ("GREEK SMALL LETTER NU", 957), ("GREEK SMALL LETTER XI", 958),
  ("GREEK SMALL LETTER OMICRON", 959), ("GREEK SMALL LETTER PI", 960),
  ("GREEK SMALL LETTER RHO", 961), ("GREEK SMALL LETTER FINAL SIGMA", 962),
  ("GREEK SMALL LETTER SIGMA", 963), ("GREEK SMALL LETTER TAU", 964),
  ("GREEK SMALL LETTER UPSILON", 965), ("GREEK SMALL LETTER PHI", 966),
  ("GREEK SMALL LETTER CHI", 967), ("GREEK SMALL LETTER PSI", 968),
  ("GREEK SMALL LETTER OMEGA", 969), ("GREEK SMALL LETTER IOTA WITH DIALYTIKA", 970),
  ("GREEK SMALL LETTER UPSILON WITH DIALYTIKA", 971),
  ("GREEK SMALL LETTER OMICRON WITH TONOS", 972), ("GREEK SMALL LETTER UPSILON WITH TONOS", 973),
  ("GREEK SMALL LETTER OMEGA WITH TONOS", 974), ("GREEK CAPITAL KAI SYMBOL", 975),
  ("GREEK BETA SYMBOL", 976), ("GREEK THETA SYMBOL", 977),
  ("GREEK UPSILON WITH HOOK SYMBOL", 978), ("GREEK UPSILON WITH ACUTE AND HOOK SYMBOL", 979),
  ("GREEK UPSILON WITH DIAERESIS AND HOOK SYMBOL", 980), ("GREEK PHI SYMBOL", 981),
  ("GREEK PI SYMBOL", 982), ("GREEK KAI SYMBOL", 983), ("GREEK LETTER ARCHAIC KOPPA", 984),
  ("GREEK SMALL LETTER ARCHAIC KOPPA", 985), ("GREEK LETTER STIGMA", 986),
  ("GREEK SMALL LETTER STIGMA", 987), ("GREEK LETTER DIGAMMA", 988),
  ("GREEK SMALL LETTER DIGAMMA", 989), ("GREEK LETTER KOPPA", 990),
  ("GREEK SMALL LETTER KOPPA", 991), ("GREEK LETTER SAMPI", 992),
  ("GREEK SMALL LETTER SAMPI", 993), ("COPTIC CAPITAL LETTER SHEI", 994),
  ("COPTIC SMALL LETTER SHEI", 995), ("COPTIC CAPITAL LETTER FEI", 996),
  ("COPTIC SMALL LETTER FEI", 997), ("COPTIC CAPITAL LETTER KHEI", 998),
  ("COPTIC SMALL LETTER KHEI", 999), ("COPTIC CAPITAL LETTER HORI", 1000),
  ("COPTIC SMALL LETTER HORI", 1001), ("COPTIC CAPITAL LETTER GANGIA", 1002),
  ("COPTIC SMALL LETTER GANGIA", 1003), ("COPTIC CAPITAL LETTER SHIMA", 1004),
  ("COPTIC SMALL LETTER SHIMA", 1005), ("COPTIC CAPITAL LETTER DEI", 1006),
  ("COPTIC SMALL LETTER DEI", 1007), ("GREEK KAPPA SYMBOL", 1008), ("GREEK RHO SYMBOL", 1009),
  ("GREEK LUNATE SIGMA SYMBOL", 1010), ("GREEK LETTER YOT", 1011),
  ("GREEK CAPITAL THETA SYMBOL", 1012), ("GREEK LUNATE EPSILON SYMBOL", 1013),
  ("GREEK REVERSED LUNATE EPSILON SYMBOL", 1014), ("GREEK CAPITAL LETTER SHO", 1015),
  ("GREEK SMALL LETTER SHO", 1016), ("GREEK CAPITAL LUNATE SIGMA SYMBOL", 1017),
  ("GREEK CAPITAL LETTER SAN", 1018), ("GREEK SMALL LETTER SAN", 1019),
  ("GREEK RHO WITH STROKE SYMBOL", 1020), ("GREEK CAPITAL REVERSED LUNATE SIGMA SYMBOL", 1021),
  ("GREEK CAPITAL DOTTED LUNATE SIGMA SYMBOL", 1022),
  ("GREEK CAPITAL REVERSED DOTTED LUNATE SIGMA SYMBOL", 1023), ("HYPHEN", 8208),
  ("NON-BREAKING HYPHEN", 8209), ("FIGURE DASH", 8210), ("EN DASH", 8211), ("EM DASH", 8212),
  ("HORIZONTAL BAR", 8213), ("DOUBLE VERTICAL LINE", 8214), ("DOUBLE LOW LINE", 8215),
  ("LEFT SINGLE QUOTATION MARK", 8216), ("RIGHT SINGLE QUOTATION MARK", 8217),
  ("SINGLE LOW-9 QUOTATION MARK", 8218), ("SINGLE HIGH-REVERSED-9 QUOTATION MARK", 8219),
  ("LEFT DOUBLE QUOTATION MARK", 8220), ("RIGHT DOUBLE QUOTATION MARK", 8221),
  ("DOUBLE LOW-9 QUOTATION MARK", 8222), ("DOUBLE HIGH-REVERSED-9 QUOTATION MARK", 8223),
  ("DAGGER", 8224), ("DOUBLE DAGGER", 8225), ("BULLET", 8226), ("TRIANGULAR BULLET", 8227),
  ("ONE DOT LEADER", 8228), ("TWO DOT LEADER", 8229), ("HORIZONTAL ELLIPSIS", 8230),
  ("HYPHENATION POINT", 8231), ("LINE SEPARATOR", 8232), ("PARAGRAPH SEPARATOR", 8233),
  ("LEFT-TO-RIGHT EMBEDDING", 8234), ("RIGHT-TO-LEFT EMBEDDING", 8235),
  ("POP DIRECTIONAL FORMATTING", 8236), ("LEFT-TO-RIGHT OVERRIDE", 8237),
  ("RIGHT-TO-LEFT OVERRIDE", 8238), ("NARROW NO-BREAK SPACE", 8239), ("PER MILLE SIGN", 8240),
  ("PER TEN THOUSAND SIGN", 8241), ("PRIME", 8242), ("DOUBLE PRIME", 8243),
  ("TRIPLE PRIME", 8244), ("REVERSED PRIME", 8245), ("REVERSED DOUBLE PRIME", 8246),
  ("REVERSED TRIPLE PRIME", 8247), ("CARET", 8248),
  ("SINGLE LEFT-POINTING ANGLE QUOTATION MARK", 8249),
  ("SINGLE RIGHT-POINTING ANGLE QUOTATION MARK", 8250), ("REFERENCE MARK", 8251),
  ("DOUBLE EXCLAMATION MARK", 8252), ("INTERROBANG", 8253), ("OVERLINE", 8254),
  ("UNDERTIE", 8255), ("CHARACTER TIE", 8256), ("CARET INSERTION POINT", 8257),
  ("ASTERISM", 8258), ("HYPHEN BULLET", 8259), ("FRACTION SLASH", 8260),
  ("LEFT SQUARE BRACKET WITH QUILL", 8261), ("RIGHT SQUARE BRACKET WITH QUILL", 8262),
  ("DOUBLE QUESTION MARK", 8263), ("QUESTION EXCLAMATION MARK", 8264),
  ("EXCLAMATION QUESTION MARK", 8265), ("TIRONIAN SIGN ET", 8266),
  ("REVERSED PILCROW SIGN", 8267), ("BLACK LEFTWARDS BULLET", 8268),
  ("BLACK RIGHTWARDS BULLET", 8269), ("LOW ASTERISK", 8270), ("REVERSED SEMICOLON", 8271),
  ("CLOSE UP", 8272), ("TWO ASTERISKS ALIGNED VERTICALLY", 8273), ("COMMERCIAL MINUS SIGN", 8274),
  ("SWUNG DASH", 8275), ("INVERTED UNDERTIE", 8276), ("FLOWER PUNCTUATION MARK", 8277),
  ("THREE DOT PUNCTUATION", 8278), ("QUADRUPLE PRIME", 8279), ("FOUR DOT PUNCTUATION", 8280),
  ("FIVE DOT PUNCTUATION", 8281), ("TWO DOT PUNCTUATION", 8282), ("FOUR DOT MARK", 8283),
  ("DOTTED CROSS", 8284), ("TRICOLON", 8285), ("VERTICAL FOUR DOTS", 8286),
  ("EURO-CURRENCY SIGN", 8352), ("COLON SIGN", 8353), ("CRUZEIRO SIGN", 8354),
  ("FRENCH FRANC SIGN", 8355), ("LIRA SIGN", 8356), ("MILL SIGN", 8357), ("NAIRA SIGN", 8358),
  ("PESETA SIGN", 8359), ("RUPEE SIGN", 8360), ("WON SIGN", 8361), ("NEW SHEQEL SIGN", 8362),
  ("DONG SIGN", 8363), ("EURO SIGN", 8364), ("KIP SIGN", 8365), ("TUGRIK SIGN", 8366),
  ("DRACHMA SIGN", 8367), ("GERMAN PENNY SIGN", 8368), ("PESO SIGN", 8369),
  ("GUARANI SIGN", 8370), ("AUSTRAL SIGN", 8371), ("HRYVNIA SIGN", 8372), ("CEDI SIGN", 8373),
  ("LIVRE TOURNOIS SIGN", 8374), ("SPESMILO SIGN", 8375), ("TENGE SIGN", 8376),
  ("INDIAN RUPEE SIGN", 8377), ("TURKISH LIRA SIGN", 8378), ("NORDIC MARK SIGN", 8379),
  ("MANAT SIGN", 8380), ("RUBLE SIGN", 8381), ("LARI SIGN", 8382), ("BITCOIN SIGN", 8383),
  ("LEFTWARDS ARROW", 8592), ("UPWARDS ARROW", 8593), ("RIGHTWARDS ARROW", 8594),
  ("DOWNWARDS ARROW", 8595), ("LEFT RIGHT ARROW", 8596), ("UP DOWN ARROW", 8597),
  ("NORTH WEST ARROW", 8598), ("NORTH EAST ARROW", 8599), ("SOUTH EAST ARROW", 8600),
  ("SOUTH WEST ARROW", 8601), ("LEFTWARDS ARROW WITH STROKE", 8602),
  ("RIGHTWARDS ARROW WITH STROKE", 8603), ("LEFTWARDS WAVE ARROW", 8604),
  ("RIGHTWARDS WAVE ARROW", 8605), ("LEFTWARDS TWO HEADED ARROW", 8606),
  ("UPWARDS TWO HEADED ARROW", 8607), ("RIGHTWARDS TWO HEADED ARROW", 8608),
  ("DOWNWARDS TWO HEADED ARROW", 8609), ("LEFTWARDS ARROW WITH TAIL", 8610),
  ("RIGHTWARDS ARROW WITH TAIL", 8611), ("LEFTWARDS ARROW FROM BAR", 8612),
  ("UPWARDS ARROW FROM BAR", 8613), ("RIGHTWARDS ARROW FROM BAR", 8614),
  ("DOWNWARDS ARROW FROM BAR", 8615), ("UP DOWN ARROW WITH BASE", 8616),
  ("LEFTWARDS ARROW WITH HOOK", 8617), ("RIGHTWARDS ARROW WITH HOOK", 8618),
  ("LEFTWARDS ARROW WITH LOOP", 8619), ("RIGHTWARDS ARROW WITH LOOP", 8620),
  ("LEFT RIGHT WAVE ARROW", 8621), ("LEFT RIGHT ARROW WITH STROKE", 8622),
  ("DOWNWARDS ZIGZAG ARROW", 8623), ("UPWARDS ARROW WITH TIP LEFTWARDS", 8624),
  ("UPWARDS ARROW WITH TIP RIGHTWARDS", 8625), ("DOWNWARDS ARROW WITH TIP LEFTWARDS", 8626),
  ("DOWNWARDS ARROW WITH TIP RIGHTWARDS", 8627), ("RIGHTWARDS ARROW WITH CORNER DOWNWARDS", 8628),
  ("DOWNWARDS ARROW WITH CORNER LEFTWARDS", 8629), ("ANTICLOCKWISE TOP SEMICIRCLE ARROW", 8630),
  ("CLOCKWISE TOP SEMICIRCLE ARROW", 8631), ("NORTH WEST ARROW TO LONG BAR", 8632),
  ("LEFTWARDS ARROW TO BAR OVER RIGHTWARDS ARROW TO BAR", 8633),
  ("ANTICLOCKWISE OPEN CIRCLE ARROW", 8634), ("CLOCKWISE OPEN CIRCLE ARROW", 8635),
  ("LEFTWARDS HARPOON WITH BARB UPWARDS", 8636), ("LEFTWARDS HARPOON WITH BARB DOWNWARDS", 8637),
  ("UPWARDS HARPOON WITH BARB RIGHTWARDS", 8638), ("UPWARDS HARPOON WITH BARB LEFTWARDS", 8639),
  ("RIGHTWARDS HARPOON WITH BARB UPWARDS", 8640),
  ("RIGHTWARDS HARPOON WITH BARB DOWNWARDS", 8641),
  ("DOWNWARDS HARPOON WITH BARB RIGHTWARDS", 8642),
  ("DOWNWARDS HARPOON WITH BARB LEFTWARDS", 8643),
  ("RIGHTWARDS ARROW OVER LEFTWARDS ARROW", 8644),
  ("UPWARDS ARROW LEFTWARDS OF DOWNWARDS ARROW", 8645),
  ("LEFTWARDS ARROW OVER RIGHTWARDS ARROW", 8646), ("LEFTWARDS PAIRED ARROWS", 8647),
  ("UPWARDS PAIRED ARROWS", 8648), ("RIGHTWARDS PAIRED ARROWS", 8649),
  ("DOWNWARDS PAIRED ARROWS", 8650), ("LEFTWARDS HARPOON OVER RIGHTWARDS HARPOON", 8651),
  ("RIGHTWARDS HARPOON OVER LEFTWARDS HARPOON", 8652),
  ("LEFTWARDS DOUBLE ARROW WITH STROKE", 8653), ("LEFT RIGHT DOUBLE ARROW WITH STROKE", 8654),
  ("RIGHTWARDS DOUBLE ARROW WITH STROKE", 8655), ("LEFTWARDS DOUBLE ARROW", 8656),
  ("UPWARDS DOUBLE ARROW", 8657), ("RIGHTWARDS DOUBLE ARROW", 8658),
  ("DOWNWARDS DOUBLE ARROW", 8659), ("LEFT RIGHT DOUBLE ARROW", 8660),
  ("UP DOWN DOUBLE ARROW", 8661), ("NORTH WEST DOUBLE ARROW", 8662),
  ("NORTH EAST DOUBLE ARROW", 8663), ("SOUTH EAST DOUBLE ARROW", 8664),
  ("SOUTH WEST DOUBLE ARROW", 8665), ("LEFTWARDS TRIPLE ARROW", 8666),
  ("RIGHTWARDS TRIPLE ARROW", 8667), ("LEFTWARDS SQUIGGLE ARROW", 8668),
  ("RIGHTWARDS SQUIGGLE ARROW", 8669), ("UPWARDS ARROW WITH DOUBLE STROKE", 8670),
  ("DOWNWARDS ARROW WITH DOUBLE STROKE", 8671), ("LEFTWARDS DASHED ARROW", 8672),
  ("UPWARDS DASHED ARROW", 8673), ("RIGHTWARDS DASHED ARROW", 8674),
  ("DOWNWARDS DASHED ARROW", 8675), ("LEFTWARDS ARROW TO BAR", 8676),
  ("RIGHTWARDS ARROW TO BAR", 8677), ("LEFTWARDS WHITE ARROW", 8678),
  ("UPWARDS WHITE ARROW", 8679), ("RIGHTWARDS WHITE ARROW", 8680),
  ("DOWNWARDS WHITE ARROW", 8681), ("UPWARDS WHITE ARROW FROM BAR", 8682),
  ("UPWARDS WHITE ARROW ON PEDESTAL", 8683),
  ("UPWARDS WHITE ARROW ON PEDESTAL WITH HORIZONTAL BAR", 8684),
  ("UPWARDS WHITE ARROW ON PEDESTAL WITH VERTICAL BAR", 8685),
  ("UPWARDS WHITE DOUBLE ARROW", 8686), ("UPWARDS WHITE DOUBLE ARROW ON PEDESTAL", 8687),
  ("RIGHTWARDS WHITE ARROW FROM WALL", 8688), ("NORTH WEST ARROW TO CORNER", 8689),
  ("SOUTH EAST ARROW TO CORNER", 8690), ("UP DOWN WHITE ARROW", 8691),
  ("RIGHT ARROW WITH SMALL CIRCLE", 8692), ("DOWNWARDS ARROW LEFTWARDS OF UPWARDS ARROW", 8693),
  ("THREE RIGHTWARDS ARROWS", 8694), ("LEFTWARDS ARROW WITH VERTICAL STROKE", 8695),
  ("RIGHTWARDS ARROW WITH VERTICAL STROKE", 8696),
  ("LEFT RIGHT ARROW WITH VERTICAL STROKE", 8697),
  ("LEFTWARDS ARROW WITH DOUBLE VERTICAL STROKE", 8698),
  ("RIGHTWARDS ARROW WITH DOUBLE VERTICAL STROKE", 8699),
  ("LEFT RIGHT ARROW WITH DOUBLE VERTICAL STROKE", 8700), ("LEFTWARDS OPEN-HEADED ARROW", 8701),
  ("RIGHTWARDS OPEN-HEADED ARROW", 8702), ("LEFT RIGHT OPEN-HEADED ARROW", 8703),
  ("BLACK SUN WITH RAYS", 9728), ("CLOUD", 9729), ("UMBRELLA", 9730), ("SNOWMAN", 9731),
  ("COMET", 9732), ("BLACK STAR", 9733), ("WHITE STAR", 9734), ("LIGHTNING", 9735),
  ("THUNDERSTORM", 9736), ("SUN", 9737), ("ASCENDING NODE", 9738), ("DESCENDING NODE", 9739),
  ("CONJUNCTION", 9740), ("OPPOSITION", 9741), ("BLACK TELEPHONE", 9742),
  ("WHITE TELEPHONE", 9743), ("BALLOT BOX", 9744), ("BALLOT BOX WITH CHECK", 9745),
  ("BALLOT BOX WITH X", 9746), ("SALTIRE", 9747), ("UMBRELLA WITH RAIN DROPS", 9748),
  ("HOT BEVERAGE", 9749), ("WHITE SHOGI PIECE", 9750), ("BLACK SHOGI PIECE", 9751),
  ("SHAMROCK", 9752), ("REVERSED ROTATED FLORAL HEART BULLET", 9753),
  ("BLACK LEFT POINTING INDEX", 9754), ("BLACK RIGHT POINTING INDEX", 9755),
  ("WHITE LEFT POINTING INDEX", 9756), ("WHITE UP POINTING INDEX", 9757),
  ("WHITE RIGHT POINTING INDEX", 9758), ("WHITE DOWN POINTING INDEX", 9759),
  ("SKULL AND CROSSBONES", 9760), ("CAUTION SIGN", 9761), ("RADIOACTIVE SIGN", 9762),
  ("BIOHAZARD SIGN", 9763), ("CADUCEUS", 9764), ("ANKH", 9765), ("ORTHODOX CROSS", 9766),
  ("CHI RHO", 9767), ("CROSS OF LORRAINE", 9768), ("CROSS OF JERUSALEM", 9769),
  ("STAR AND CRESCENT", 9770), ("FARSI SYMBOL", 9771), ("ADI SHAKTI", 9772),
  ("HAMMER AND SICKLE", 9773), ("PEACE SYMBOL", 9774), ("YIN YANG", 9775),
  ("TRIGRAM FOR HEAVEN", 9776), ("TRIGRAM FOR LAKE", 9777), ("TRIGRAM FOR FIRE", 9778),
  ("TRIGRAM FOR THUNDER", 9779), ("TRIGRAM FOR WIND", 9780), ("TRIGRAM FOR WATER", 9781),
  ("TRIGRAM FOR MOUNTAIN", 9782), ("TRIGRAM FOR EARTH", 9783), ("WHEEL OF DHARMA", 9784),
  ("WHITE FROWNING FACE", 9785), ("WHITE SMILING FACE", 9786), ("BLACK SMILING FACE", 9787),
  ("WHITE SUN WITH RAYS", 9788), ("FIRST QUARTER MOON", 9789), ("LAST QUARTER MOON", 9790),
  ("MERCURY", 9791), ("FEMALE SIGN", 9792), ("EARTH", 9793), ("MALE SIGN", 9794),
  ("JUPITER", 9795), ("SATURN", 9796), ("URANUS", 9797), ("NEPTUNE", 9798), ("PLUTO", 9799),
  ("ARIES", 9800), ("TAURUS", 9801), ("GEMINI", 9802), ("CANCER", 9803), ("LEO", 9804),
  ("VIRGO", 9805), ("LIBRA", 9806), ("SCORPIUS", 9807), ("SAGITTARIUS", 9808),
  ("CAPRICORN", 9809), ("AQUARIUS", 9810), ("PISCES", 9811), ("WHITE CHESS KING", 9812),
  ("WHITE CHESS QUEEN", 9813), ("WHITE CHESS ROOK", 9814), ("WHITE CHESS BISHOP", 9815),
  ("WHITE CHESS KNIGHT", 9816), ("WHITE CHESS PAWN", 9817), ("BLACK CHESS KING", 9818),
  ("BLACK CHESS QUEEN", 9819), ("BLACK CHESS ROOK", 9820), ("BLACK CHESS BISHOP", 9821),
  ("BLACK CHESS KNIGHT", 9822), ("BLACK CHESS PAWN", 9823), ("BLACK SPADE SUIT", 9824),
  ("WHITE HEART SUIT", 9825), ("WHITE DIAMOND SUIT", 9826), ("BLACK CLUB SUIT", 9827),
  ("WHITE SPADE SUIT", 9828), ("BLACK HEART SUIT", 9829), ("BLACK DIAMOND SUIT", 9830),
  ("WHITE CLUB SUIT", 9831), ("HOT SPRINGS", 9832), ("QUARTER NOTE", 9833), ("EIGHTH NOTE", 9834),
  ("BEAMED EIGHTH NOTES", 9835), ("BEAMED SIXTEENTH NOTES", 9836), ("MUSIC FLAT SIGN", 9837),
  ("MUSIC NATURAL SIGN", 9838), ("MUSIC SHARP SIGN", 9839), ("CYCLONE", 127744),
  ("FOGGY", 127745), ("CLOSED UMBRELLA", 127746), ("NIGHT WITH STARS", 127747),
  ("SUNRISE OVER MOUNTAINS", 127748), ("SUNRISE", 127749), ("CITYSCAPE AT DUSK", 127750),
  ("SUNSET OVER BUILDINGS", 127751), ("RAINBOW", 127752), ("BRIDGE AT NIGHT", 127753),
  ("WATER WAVE", 127754), ("VOLCANO", 127755), ("MILKY WAY", 127756),
  ("EARTH GLOBE EUROPE-AFRICA", 127757), ("EARTH GLOBE AMERICAS", 127758),
  ("EARTH GLOBE ASIA-AUSTRALIA", 127759), ("GLOBE WITH MERIDIANS", 127760),
  ("NEW MOON SYMBOL", 127761), ("WAXING CRESCENT MOON SYMBOL", 127762),
  ("FIRST QUARTER MOON SYMBOL", 127763), ("WAXING GIBBOUS MOON SYMBOL", 127764),
  ("FULL MOON SYMBOL", 127765), ("WANING GIBBOUS MOON SYMBOL", 127766),
  ("LAST QUARTER MOON SYMBOL", 127767), ("WANING CRESCENT MOON SYMBOL", 127768),
  ("CRESCENT MOON", 127769), ("NEW MOON WITH FACE", 127770),
  ("FIRST QUARTER MOON WITH FACE", 127771), ("LAST QUARTER MOON WITH FACE", 127772),
  ("FULL MOON WITH FACE", 127773), ("SUN WITH FACE", 127774), ("GLOWING STAR", 127775),
  ("SHOOTING STAR", 127776), ("THERMOMETER", 127777), ("BLACK DROPLET", 127778),
  ("WHITE SUN", 127779), ("WHITE SUN WITH SMALL CLOUD", 127780),
  ("WHITE SUN BEHIND CLOUD", 127781), ("WHITE SUN BEHIND CLOUD WITH RAIN", 127782),
  ("CLOUD WITH RAIN", 127783), ("CLOUD WITH SNOW", 127784), ("CLOUD WITH LIGHTNING", 127785),
  ("CLOUD WITH TORNADO", 127786), ("FOG", 127787), ("WIND BLOWING FACE", 127788),
  ("HOT DOG", 127789), ("TACO", 127790), ("BURRITO", 127791), ("CHESTNUT", 127792),
  ("SEEDLING", 127793), ("EVERGREEN TREE", 127794), ("DECIDUOUS TREE", 127795),
  ("PALM TREE", 127796), ("CACTUS", 127797), ("HOT PEPPER", 127798), ("TULIP", 127799),
  ("CHERRY BLOSSOM", 127800), ("ROSE", 127801), ("HIBISCUS", 127802), ("SUNFLOWER", 127803),
  ("BLOSSOM", 127804), ("EAR OF MAIZE", 127805), ("EAR OF RICE", 127806), ("HERB", 127807),
  ("FOUR LEAF CLOVER", 127808), ("MAPLE LEAF", 127809), ("FALLEN LEAF", 127810),
  ("LEAF FLUTTERING IN WIND", 127811), ("MUSHROOM", 127812), ("TOMATO", 127813),
  ("AUBERGINE", 127814), ("GRAPES", 127815), ("MELON", 127816), ("WATERMELON", 127817),
  ("TANGERINE", 127818), ("LEMON", 127819), ("BANANA", 127820), ("PINEAPPLE", 127821),
  ("RED APPLE", 127822), ("GREEN APPLE", 127823), ("PEAR", 127824), ("PEACH", 127825),
  ("CHERRIES", 127826), ("STRAWBERRY", 127827), ("HAMBURGER", 127828), ("SLICE OF PIZZA", 127829),
  ("MEAT ON BONE", 127830), ("POULTRY LEG", 127831), ("RICE CRACKER", 127832),
  ("RICE BALL", 127833), ("COOKED RICE", 127834), ("CURRY AND RICE", 127835),
  ("STEAMING BOWL", 127836), ("SPAGHETTI", 127837), ("BREAD", 127838), ("FRENCH FRIES", 127839),
  ("ROASTED SWEET POTATO", 127840), ("DANGO", 127841), ("ODEN", 127842), ("SUSHI", 127843),
  ("FRIED SHRIMP", 127844), ("FISH CAKE WITH SWIRL DESIGN", 127845), ("SOFT ICE CREAM", 127846),
  ("SHAVED ICE", 127847), ("ICE CREAM", 127848), ("DOUGHNUT", 127849), ("COOKIE", 127850),
  ("CHOCOLATE BAR", 127851), ("CANDY", 127852), ("LOLLIPOP", 127853), ("CUSTARD", 127854),
  ("HONEY POT", 127855), ("SHORTCAKE", 127856), ("BENTO BOX", 127857), ("POT OF FOOD", 127858),
  ("COOKING", 127859), ("FORK AND KNIFE", 127860), ("TEACUP WITHOUT HANDLE", 127861),
  ("SAKE BOTTLE AND CUP", 127862), ("WINE GLASS", 127863), ("COCKTAIL GLASS", 127864),
  ("TROPICAL DRINK", 127865), ("BEER MUG", 127866), ("CLINKING BEER MUGS", 127867),
  ("BABY BOTTLE", 127868), ("FORK AND KNIFE WITH PLATE", 127869),
  ("BOTTLE WITH POPPING CORK", 127870), ("POPCORN", 127871), ("GRINNING FACE", 128512),
  ("GRINNING FACE WITH SMILING EYES", 128513), ("FACE WITH TEARS OF JOY", 128514),
  ("SMILING FACE WITH OPEN MOUTH", 128515),
  ("SMILING FACE WITH OPEN MOUTH AND SMILING EYES", 128516),
  ("SMILING FACE WITH OPEN MOUTH AND COLD SWEAT", 128517),
  ("SMILING FACE WITH OPEN MOUTH AND TIGHTLY-CLOSED EYES", 128518),
  ("SMILING FACE WITH HALO", 128519), ("SMILING FACE WITH HORNS", 128520),
  ("WINKING FACE", 128521), ("SMILING FACE WITH SMILING EYES", 128522),
  ("FACE SAVOURING DELICIOUS FOOD", 128523), ("RELIEVED FACE", 128524),
  ("SMILING FACE WITH HEART-SHAPED EYES", 128525), ("SMILING FACE WITH SUNGLASSES", 128526),
  ("SMIRKING FACE", 128527), ("NEUTRAL FACE", 128528), ("EXPRESSIONLESS FACE", 128529),
  ("UNAMUSED FACE", 128530), ("FACE WITH COLD SWEAT", 128531), ("PENSIVE FACE", 128532),
  ("CONFUSED FACE", 128533), ("CONFOUNDED FACE", 128534), ("KISSING FACE", 128535),
  ("FACE THROWING A KISS", 128536), ("KISSING FACE WITH SMILING EYES", 128537),
  ("KISSING FACE WITH CLOSED EYES", 128538), ("FACE WITH STUCK-OUT TONGUE", 128539),
  ("FACE WITH STUCK-OUT TONGUE AND WINKING EYE", 128540),
  ("FACE WITH STUCK-OUT TONGUE AND TIGHTLY-CLOSED EYES", 128541), ("DISAPPOINTED FACE", 128542),
  ("WORRIED FACE", 128543), ("ANGRY FACE", 128544), ("POUTING FACE", 128545),
  ("CRYING FACE", 128546), ("PERSEVERING FACE", 128547), ("FACE WITH LOOK OF TRIUMPH", 128548),
  ("DISAPPOINTED BUT RELIEVED FACE", 128549), ("FROWNING FACE WITH OPEN MOUTH", 128550),
  ("ANGUISHED FACE", 128551), ("FEARFUL FACE", 128552), ("WEARY FACE", 128553),
  ("SLEEPY FACE", 128554), ("TIRED FACE", 128555), ("GRIMACING FACE", 128556),
  ("LOUDLY CRYING FACE", 128557), ("FACE WITH OPEN MOUTH", 128558), ("HUSHED FACE", 128559),
  ("FACE WITH OPEN MOUTH AND COLD SWEAT", 128560), ("FACE SCREAMING IN FEAR", 128561),
  ("ASTONISHED FACE", 128562), ("FLUSHED FACE", 128563), ("SLEEPING FACE", 128564),
  ("DIZZY FACE", 128565), ("FACE WITHOUT MOUTH", 128566), ("FACE WITH MEDICAL MASK", 128567),
  ("GRINNING CAT FACE WITH SMILING EYES", 128568), ("CAT FACE WITH TEARS OF JOY", 128569),
  ("SMILING CAT FACE WITH OPEN MOUTH", 128570),
  ("SMILING CAT FACE WITH HEART-SHAPED EYES", 128571), ("CAT FACE WITH WRY SMILE", 128572),
  ("KISSING CAT FACE WITH CLOSED EYES", 128573), ("POUTING CAT FACE", 128574),
  ("CRYING CAT FACE", 128575), ("WEARY CAT FACE", 128576), ("SLIGHTLY FROWNING FACE", 128577),
  ("SLIGHTLY SMILING FACE", 128578), ("UPSIDE-DOWN FACE", 128579),
  ("FACE WITH ROLLING EYES", 128580), ("FACE WITH NO GOOD GESTURE", 128581),
  ("FACE WITH OK GESTURE", 128582), ("PERSON BOWING DEEPLY", 128583),
  ("SEE-NO-EVIL MONKEY", 128584), ("HEAR-NO-EVIL MONKEY", 128585),
  ("SPEAK-NO-EVIL MONKEY", 128586), ("HAPPY PERSON RAISING ONE HAND", 128587),
  ("PERSON RAISING BOTH HANDS IN CELEBRATION", 128588), ("PERSON FROWNING", 128589),
  ("PERSON WITH POUTING FACE", 128590), ("PERSON WITH FOLDED HANDS", 128591),
  ("TRADE MARK SIGN", 8482), ("CHECK MARK", 10003), ("HEAVY CHECK MARK", 10004),
  ("BALLOT X", 10007), ("ZERO WIDTH SPACE", 8203), ("ZERO WIDTH NON-JOINER", 8204),
  ("ZERO WIDTH JOINER", 8205), ("ZERO WIDTH NO-BREAK SPACE", 65279), ("SNAKE", 128013)]

/-- The character with a name, in any case. -/
def characterNamed? (name : String) : Option Char :=
  (characterNames.lookup (name.map Char.toUpper)).map Char.ofNat

end Foundry.Text
