import YamlSchema.Text.Unicode.Ranges

/-!
# Scripts

The script that a character belongs to, and the scripts that a character is used with beyond its own.  Names are in
loose form: small letters without marks between them.
-/

namespace YamlSchema.Text.Unicode.Script

/-- The scripts in the order of their numbers, by their names. -/
def names : List (List String) :=
  [["adlm", "adlam"], ["aghb", "caucasianalbanian"], ["ahom"], ["arab", "arabic"], ["armi", "imperialaramaic"],
   ["armn", "armenian"], ["avst", "avestan"], ["bali", "balinese"], ["bamu", "bamum"], ["bass", "bassavah"],
   ["batk", "batak"], ["beng", "bengali"], ["bhks", "bhaiksuki"], ["bopo", "bopomofo"], ["brah", "brahmi"],
   ["brai", "braille"], ["bugi", "buginese"], ["buhd", "buhid"], ["cakm", "chakma"], ["cans", "canadianaboriginal"],
   ["cari", "carian"], ["cham"], ["cher", "cherokee"], ["chrs", "chorasmian"], ["copt", "coptic", "qaac"],
   ["cpmn", "cyprominoan"], ["cprt", "cypriot"], ["cyrl", "cyrillic"], ["deva", "devanagari"], ["diak", "divesakuru"],
   ["dogr", "dogra"], ["dsrt", "deseret"], ["dupl", "duployan"], ["egyp", "egyptianhieroglyphs"], ["elba", "elbasan"],
   ["elym", "elymaic"], ["ethi", "ethiopic"], ["gara", "garay"], ["geor", "georgian"], ["glag", "glagolitic"],
   ["gong", "gunjalagondi"], ["gonm", "masaramgondi"], ["goth", "gothic"], ["gran", "grantha"], ["grek", "greek"],
   ["gujr", "gujarati"], ["gukh", "gurungkhema"], ["guru", "gurmukhi"], ["hang", "hangul"], ["hani", "han"],
   ["hano", "hanunoo"], ["hatr", "hatran"], ["hebr", "hebrew"], ["hira", "hiragana"],
   ["hluw", "anatolianhieroglyphs"], ["hmng", "pahawhhmong"], ["hmnp", "nyiakengpuachuehmong"],
   ["hung", "oldhungarian"], ["ital", "olditalic"], ["java", "javanese"], ["kali", "kayahli"], ["kana", "katakana"],
   ["kawi"], ["khar", "kharoshthi"], ["khmr", "khmer"], ["khoj", "khojki"], ["kits", "khitansmallscript"],
   ["knda", "kannada"], ["krai", "kiratrai"], ["kthi", "kaithi"], ["lana", "taitham"], ["laoo", "lao"],
   ["latn", "latin"], ["lepc", "lepcha"], ["limb", "limbu"], ["lina", "lineara"], ["linb", "linearb"], ["lisu"],
   ["lyci", "lycian"], ["lydi", "lydian"], ["mahj", "mahajani"], ["maka", "makasar"], ["mand", "mandaic"],
   ["mani", "manichaean"], ["marc", "marchen"], ["medf", "medefaidrin"], ["mend", "mendekikakui"],
   ["merc", "meroiticcursive"], ["mero", "meroitichieroglyphs"], ["mlym", "malayalam"], ["modi"],
   ["mong", "mongolian"], ["mroo", "mro"], ["mtei", "meeteimayek"], ["mult", "multani"], ["mymr", "myanmar"],
   ["nagm", "nagmundari"], ["nand", "nandinagari"], ["narb", "oldnortharabian"], ["nbat", "nabataean"], ["newa"],
   ["nkoo", "nko"], ["nshu", "nushu"], ["ogam", "ogham"], ["olck", "olchiki"], ["onao", "olonal"],
   ["orkh", "oldturkic"], ["orya", "oriya"], ["osge", "osage"], ["osma", "osmanya"], ["ougr", "olduyghur"],
   ["palm", "palmyrene"], ["pauc", "paucinhau"], ["perm", "oldpermic"], ["phag", "phagspa"],
   ["phli", "inscriptionalpahlavi"], ["phlp", "psalterpahlavi"], ["phnx", "phoenician"], ["plrd", "miao"],
   ["prti", "inscriptionalparthian"], ["rjng", "rejang"], ["rohg", "hanifirohingya"], ["runr", "runic"],
   ["samr", "samaritan"], ["sarb", "oldsoutharabian"], ["saur", "saurashtra"], ["sgnw", "signwriting"],
   ["shaw", "shavian"], ["shrd", "sharada"], ["sidd", "siddham"], ["sind", "khudawadi"], ["sinh", "sinhala"],
   ["sogd", "sogdian"], ["sogo", "oldsogdian"], ["sora", "sorasompeng"], ["soyo", "soyombo"], ["sund", "sundanese"],
   ["sunu", "sunuwar"], ["sylo", "sylotinagri"], ["syrc", "syriac"], ["tagb", "tagbanwa"], ["takr", "takri"],
   ["tale", "taile"], ["talu", "newtailue"], ["taml", "tamil"], ["tang", "tangut"], ["tavt", "taiviet"],
   ["telu", "telugu"], ["tfng", "tifinagh"], ["tglg", "tagalog"], ["thaa", "thaana"], ["thai"], ["tibt", "tibetan"],
   ["tirh", "tirhuta"], ["tnsa", "tangsa"], ["todr", "todhri"], ["toto"], ["tutg", "tulutigalari"],
   ["ugar", "ugaritic"], ["vaii", "vai"], ["vith", "vithkuqi"], ["wara", "warangciti"], ["wcho", "wancho"],
   ["xpeo", "oldpersian"], ["xsux", "cuneiform"], ["yezi", "yezidi"], ["yiii", "yi"], ["zanb", "zanabazarsquare"],
   ["zinh", "inherited", "qaai"], ["zyyy", "common"]]

private def data : String :=
  String.join
    ["b9Y0Y8Pb95Y8Pb9XEY80b9EY80b94Y8Mb90Y8Ub90Y8k0b9X6Y84b94D1b9Jb8ZFXC3b90XC2bA1XC3b90XC0bA3XC0b90XC0b90XC2b",
     "A0XC0bA0XCJbA0XCXUODXCFRa4b81Rb8bA05X5bA15XHbA152bA0XKXMbA7XKQbA3XK5bAA34b9035b903Db9032b903Vb9039b8A3Pb",
     "803ZBb903X1aBDbA0aBXRbA1aB23XFaMXHbADZ5XQbA1Z52ZRXDbA1ZREbA0YIRbA1YI0bA0aBAbA43UbA031bA43YAb903SSYGb83SE",
     "b91SPB3bA0B7bA1B1bA1BLbA0B6bA0B0bA2B3bA1B8bA1B1bA1B3bA7B0bA3B1bA0B4bA1BObA1XF2bA0XF5bA3XF1bA1XFLbA0XF6bA",
     "0XF1bA0XF1bA0XF1bA1XF0bA0XF4bA3XF1bA1XF2bA2XF0bA6XF3bA0XF0bA6XFGbA9XD2bA0XD8bA0XD2bA0XDLbA0XD6bA0XD1bA0X",
     "D4bA1XD9bA0XD2bA0XD2bA1XD0bAEXD3bA1XDBbA6XD6bA0ZB2bA0ZB7bA1ZB1bA1ZBLbA0ZB6bA0ZB1bA0ZB4bA1ZB8bA1ZB1bA1ZB2",
     "bA6ZB2bA3ZB1bA0ZB4bA1ZBHbA9aG1bA0aG5bA2aG2bA0aG3bA2aG1bA0aG0bA0aG1bA2aG1bA2aG2bA2aGBbA3aG4bA2aG2bA0aG3bA",
     "1aG0bA5aG0bADaGKbA4aJCbA0aJ2bA0aJMbA0aJFbA1aJ8bA0aJ2bA0aJ3bA6aJ1bA0aJ2bA1aJ0bA1aJ3bA1aJ9bA6aJ8Y3CbA0Y32b",
     "A0Y3MbA0Y39bA0Y34bA1Y38bA0Y32bA0Y33bA6Y31bA5Y31bA0Y33bA1Y39bA0Y32bABYPCbA0YP2bA0YPXIbA0YP2bA0YP5bA3YPFbA",
     "1YPPbA0a32bA0a3HbA2a3NbA0a38bA0a30bA1a36bA2a30bA3a35bA0a30bA0a37bA5a39bA1a32bABaNXPbA3b90aNRbAX4Y71bA0Y7",
     "0bA0Y74bA0Y7NbA0Y70bA0Y7MbA1Y74bA0Y70bA0Y76bA0Y79bA1Y73bAVaOY7bA0aOX3bA3aOX6bA0aOX3bA0aOEbA0aO6b93aO1bAX",
     "4YVaVX6X5bA0X60bA4X60bA1X6XAb90X63XGdVX4Y8bA0X43bA1X46bA0X40bA0X43bA1X4X8bA0X43bA1X4X0bA0X43bA1X46bA0X40",
     "bA0X43bA1X4EbA0X4XObA0X43bA1X4Y2bA1X4VbA2X4PbA5MYLbA1M5bA1JpVZ7SbA2ZQYAb92ZQAbA6aLLbA8aL0XIKb91bA8HJbABa",
     "CCbA0aC2bA0aC1bABY0YTbA1Y09bA5Y09bA5YR1b91YR0b90YRJbA5YRYObA6YRXAbA4JY5bA9YAUbA0YABbA3YABbA3YA0bA2YABaET",
     "bA1aE4bAAaFXBbA3aFPbA5aFAbA2aF1Y0VGRbA1G1Y6XUbA0Y6SbA1Y6AbA5Y69bA5Y6DbA1b8UbAXG7YCbA07XHa8XVAXJbA7A3Y9XN",
     "bA2Y9EbA2Y92Z8XFRAbA4X6XAbA1X62a87bA7b82b90b8Cb90b86b93b80b95b80b92b81b90bA4Y8X5XC4R0Y8XGXC4Y83XC4Y8CR0Y",
     "8Y5XC0b8XVY8dVXCLbA1XC5bA1XCX5bA1XC5bA1XC7bA0XC0bA0XC0bA0XC0bA0XCUbA1XCXKbA0XCEbA0XCDbA1XC5bA0XCIbA1XC2b",
     "A0XC8bA0b9Bb81b9YMbA0b9AY80bA1b9AY80b9EbA0Y8CbA2b9X0bAEb8X0bAEb9X5XC0b92Y81b95Y80b9QY80b9GY8X8b92bA3b9qP",
     "bALb9AbAKb9yVFdVb9pJbA1b9VbA0b9Z8X7YVY8VOZJbA4O6X6X5bA0X60bA4X60bA1aKXNbA6aK1bADaK0X4MbA8X46bA0X46bA0X46",
     "bA0X46bA0X46bA0X46bA0X46bA0X46bA0RVb9YTbAX1XHPbA0XHYObABXHcLbAPb9KXH0b90XH0b9OXH8b83XG1b97XH3b93bA0XLYLb",
     "A1b81b91XL2b90XTYPb91XT2bA4DXAbA0XGYTbA0b9FDVb9X5bA8b90XTFXGUbA0b9XVXGUb9YGXTXEb90XTYNb9b7XHcjVb9XVXHqlV",
     "b6XaCbA2b6XMbA8YDXFaVfBbAJRYV8YNbA7b9X1Y8Z5b92Y8Y2bA1Y81bA0Y80bA0Y87bAKY8DaAXCbA2b99bA5ZIXNbA7ZTY5bA7ZTB",
     "bA5SVXSXDb90XS0ZOX3bAAZO0XGSbA2XRYDbA0b90XR9bA3XR1YVUbA0LXMbA8LDbA1L9bA1L3YVVaIY2bANaI4YTMbA9X45bA1X45bA",
     "1X45bA8X46bA0X46bA0Y8XAb90Y88XC0Y83b91bA3MYFYTXDbA1YT9bA5XGgz3bABXGMbA3XGXGbAee3XHhDbA1XHZ9bAX5Y86bAB54b",
     "A4XKPbA0XK4bA0XK0bA0XK1bA0XK1bA0XK93ZIbAF3hAb913YFbA13XLbA630bAV3Fb8Fb99bA5b8DR1b9X2bA0b9IbA0b93bA334bA0",
     "3a6bA1b90bA0b9VY8Pb95Y8Pb9AXT9b90XTXCb91XGUbA2XG5bA1XG5bA1XG5bA1XG2bA2b96bA0b96bA9b94bA1YCBbA0YCPbA0YCIb",
     "A0YC1bA0YCEbA1YCDbAX1YCZQbA4b92bA3b9XCbA2b98XCYEbA0b9CbA2XC0bAXEb9XCb80bAa1YESbA2KXGbAEb80b9QbA3XQX3bA8X",
     "Q2XAQbA4ZHXAbA4aUTbA0aU0b3X3bA3b3DbAX9VYFZVXFZDTbA1ZD9bA5ZCX3bA3ZCX3bA3X2X7bA71XJbAA10b0AbA0b0EbA0b06bA0",
     "b01bA0b0AbA0b0EbA0b06bA0b01bA2aRXJbABYBfMbA8YBLbA9YB7bANY85bA0Y8X9bA0Y88bAY4Q5bA1Q0bA0QXBbA0Q1bA2Q0bA1Q0",
     "4LbA048ZFVZ3UbA7Z38bAXFXJIbA0XJ1bA4XJ4ZLRbA2ZL0YFPbA4YF0bAXVYOVYNNbA3YNJbA1YNXDXV3bA0XV1bA4XV7bA0XV2bA0X",
     "VSbA1XV2bA3XV9bA6XV8bA6ZSVZ2VbAVYJX6bA3YJBbA86XLbA266ZNLbA1ZN7ZJIbA4ZJ7ZKHbA6ZK3bABZK6bAYFZAY8bAXMXPXIbA",
     "CXPXIbA6XP5ZPX7bA7ZP9bA5X5X5bA2X5SbA7X51bAcF3UbA0b5X9bA0b52bA1b51bAF32bAXM33a5X7bA7a4X9bALZEPbAX5NRbAJX3",
     "MbA8EYDbA3EX3bA8E0Y5Y2bA9Y50bA1a6ObA6a69bA5IXKbA0IHbA7YGX6bA8a0YVbA0a3JbAAY1HbA0Y1XEbAXTYU6bA0YU0bA0YU3b",
     "A0YUEbA0YUAbA5a2XQbA4a29bA5XB3bA0XB7bA1XB1bA1XBLbA0XB6bA0XB1bA0XB4bA0b80XB8bA1XB1bA1XB2bA1XB0bA5XB0bA4XB",
     "6bA1XB6bA2XB4bAAaT9bA0aT0bA1aT0bA0aTX5bA0aT9bA0aT0bA1aT0bA0aT3bA0aT9bA0aT1bA7aT1bASZ4YRbA0Z44bATaPY7bA7a",
     "P9bAb5a1XLbA1a1X5bAX1YQY4bAAYQ9bA5YRCbAIaDXPbA5aD9bA5YVJbAR2QbA12EbA32MbAbOUXRbAZ3b1YIbABb10T6bA1T0bA1T7",
     "bA0T1bA0TTbA0T1bA1TBbA8T9bAY5Z17bA1Z1XDbA1Z1AbAQb7Y7bA7a7YIbACJFZGXObA6S9bAbLa9X1bADa99bA5C8bA0CXCbA0CDb",
     "A9CSbA2YKVbA1YKLbA0YKDbAY8X96bA0X91bA0X9XBbA2X90bA0X91bA0X98bA7X99bA5X85bA0X81bA0X8X4bA0X81bA0X85bA6X89b",
     "AfLYHObA6XUGbA0XUX8bA2XUSbAYKYD0bAEaGXHbACaG0b4yPbAZ5b4ZEbA0b44bAAb4c3bAYoBPZ2bACX1XYLbA9X1ZyQbA4XMo6bAc",
     "rOXEXPbAXs58nObA6YSUbA0YS9bA3YS1aQYEbA0aQ9bA59TbA195bA9XNY5bA9XN9bA0XN6bA0XNKbA4XNIbAjFY4XPbAc5YLYQbAZ4Z",
     "MYAbA3ZMXObA6ZMGbAXVaH0Z60XH1Y20bAAXH1bADaHb-NbA7aHtVY2kLbAX8Y20aH8bAet6XT3bA0XT6bA0XT1bA0XT0XLeUXT2bAEX",
     "L0bASXL2bA1XT0bADXT3bA7Z6iBbAYe3X0ZAbA4X0CbA2X08bA6X09bA1X03b93bAZwRb9dPbA5b9jJbAYBb8XDbA1b8MbA8b9ZJbAXR",
     "b9dLbA9b9X6bA1b9XTb82b9Gb87b91b86b9Tb83b9XSbAKXCY5bAZPb9JbABb9JbABb9YMbA8b9ObAa6b9YKbA0b9Y6bA0b91bA1b90b",
     "A1b91bA1b93bA0b9BbA0b90bA0b96bA0b9Y0bA0b93bA1b97bA0b96bA0b9RbA0b93bA0b94bA0b90bA2b96bA0b9gJbA1b9f3bA1b9X",
     "HZUqBbAEZU4bA0ZUEbAXYFY8UbA5Y85bAcKX76bA0X7GbA1X76bA0X71bA0X74bA4RXTbAX0R0bAZFXOXCbA2XODbA1XO9bA3XO1bAfV",
     "aSUbAGb2XPbA4b20bAkFZ0X9bAcLZ9XAbA3Z90bAkVX46bA0X43bA0X41bA0X4EbA0YMc4bA1YMFbAX80YBbA309bA301bAuGb9Y3bAY",
     "Bb9XSbAc133bA03QbA031bA030bA130bA039bA033bA030bA030bA530bA330bA030bA030bA032bA031bA030bA130bA030bA030bA0",
     "30bA030bA031bA030bA133bA036bA033bA033bA030bA039bA03GbA432bA034bA03GbAXJ31bAeDb9XBbA3b9Z3bABb9EbA1b9EbA0b",
     "9EbA0b9X4bA9b9bDbAXNb9PXL0b91bACb9XBbA3b98bA6b91bADb95bAaPb9+NbA3b9GbA2b9CbA2b9ZMbA3b9YUbA5b9BbA3b90bAEb",
     "9BbA3b9XNbA7b99bA5b9X7bA7b9TbA1b9BbA3b91bAXTb9gJbABb9DbA1b9CbA2b99bA4b9XNbA6b9EbA1b9AbA5b98bA6b9aIbA0b9Z",
     "5bAXW5XHXfsVbAVXHaXPbA5XHcTbA1XHbq1bADXHdfGbAEXHpDbAYj1XHmTbAXl1XHawAbA4XHaYVbArtYGb90bATb9YVbAZVb8dFbAb",
     "-mF"]

private def extensionData : String :=
  String.join
    ["bN0G6KOX0X2X6X7X8XAXCXHY8YFYGZHZVm407BRSY8YDaNaSA02DY8122DY8102Y8YD902Y8aN102DY8X608MORXCY8ZHa9aE008MRXC",
     "Y8ZCa9aEaR004MRY8aK005X7Y8a9aBaN00B1MORXAXCY8ZCaBaKaR006OX2X7XAXTY8005RXCY8ZHaK009OX0XKY8ZHaBaEaKaR00B5R",
     "X0XAXCXKY8ZHaBaEaK002Y8aK003X0Y8aB004MRY8ZC003MY8aE002Y8a9002X4Y8102Y8a9003RY8aR104XCY8ZHaRF06MX0XTY8aBa",
     "K004MX0Y8aB002Y8aB703Y8a9aB002Y8aB103MY8aB0071MXAY8a9aBaNG01XC201XCI02Y8ZC5031Y8aR4C1Y8412OXCeD02RZH002R",
     "X7012RY8002RX7e1035X6X7a2073X5Z5ZPaBaMb5E073X5Z5ZPaBaMb50033aBaM20803X5Z5ZPaBaMb5X00903YIYJZEZKZPa4aBAA2",
     "3aBA933aMb56023aBZ3023ZPpS0FBSXBXDXFY3Y8YPZ1Z4ZBa0aGaJaP00DBSXBXDXFY3Y8YPZ4ZBaGaJaPH0LBSUX8X9XBXDXFY3YGY",
     "PZ1Z9ZBa2a3aAaDaGaJaP00NBSUX8X9XBXDXEXFY3YAYGYPZ1Z9ZBa2a3aAaDaGaJaP094SUY5YGZM93BIaAZM92XFYUZM92XDY1dMD2",
     "XBaGdI93Y3Z1aTwG93IYVaEbH03X6X7Y8XlF21ZQY714HXIaCaLcB12YRZI102YRZIXcA04BSXBY3001S004BSXBY3003SXBY3001S00",
     "5BSZ4aJaP003BSaJ003SZ4a0004BSZ4aJ002Sa0006SY3YPZBaGaJ001S012Sa0011S002Sa0002BS003SZ4aP051S003SZ1Z4003BSa",
     "0002SZ4001S004BSZ4a0031S00BBSXBY3YPZ1ZBa3aJaPaT002SXB004SXBY3aT012BS001B012SXB001Z1c511XCXM03RY8aB101aBn",
     "K03Y8YRZIV0203A06KX6X7XPYEZA204KXCXPYOaI03SXBY8Zf602OY8O026ZA0076KX6XPY5YFZRA01X040303XP102RX7jCF2XHaH10",
     "7DXGXHXLXTYRb6008DXGXHXLXTYRZIb6005DXGXHXLXT201XH118DXGXHXLXTYRaOb6019DXGXHXLXTYDYRaOb6056DXGXHXLXTb6105",
     "DXGXHXLXT076DXGXHXLXTb6035DXGXHXLXTA32DXH205DXGXHXLXT042XLXT105DXGXHXLXT413XHXLXT011XHYP32XLXT302XLXTYQ0",
     "6DXGXHXLXTb6002XLXTaJF1XHX0X51XH902XHaHXGX71XHXOXG1XHFB1XHXJ01XHYOO1XHA41XHZ0U1XHypG02RX7aG72XHY8f82GSUX",
     "DXFY1Y3Y5YGYPYQZ1a0a2aDaPaT02FSUXDXFY1Y3Y5YGYQZ1a0a2aDaPaT01BSUXDXFY1Y5YGYQa2aDaP00CSUXDXFY1Y5YGYQa0a2aD",
     "aP00BSUXDXFY1Y5YGYQa2aDaPbN03BSaT102SaGXQ03XSY8YVb002GXRqxE123Z5bI023aMA023aMY715DXGXHXLXTeQ46DXGXHXLXTb",
     "6A02XLXTXD12XLXTh013PQYC002QYC4XC3QYBYC382QYCj0R23OX-M02YJZEYWE02XBaG102XBaGXN12XBaGZaJ12XBaG102XBaGXdcC",
     "31X0brSH1XHdsU11XH"]

/-- The runs of characters of one script; one past the last number stands for none. -/
def runs : List Run := decodeRuns data

/-- Characters that are used with a number of scripts. -/
structure Extension where
  first : Nat
  last : Nat
  scripts : List Nat

private def extensionsFrom (fuel next : Nat) (ns : List Nat) : List Extension :=
  match fuel, ns with
  | fuel + 1, gap :: length :: count :: rest =>
    ⟨next + gap, next + gap + length, rest.take count⟩ ::
      extensionsFrom fuel (next + gap + length + 1) (rest.drop count)
  | _, _ => []

/-- The characters that are used with other scripts than their own. -/
def extensions : List Extension :=
  let ns := numbers extensionData
  extensionsFrom ns.length 0 ns

/-- The number that a name of a script stands for. -/
def numberOf? (name : String) : Option Nat := names.findIdx? fun aliases => name ∈ aliases

/-- The characters that belong to a script. -/
def ranges? (name : String) : Option Ranges := (numberOf? name).map fun i => rangesWhere runs fun v => v = i

/-- The characters that are used with a script. -/
def extendedRanges? (name : String) : Option Ranges :=
  (numberOf? name).map fun i =>
    let special := extensions.map fun e => (e.first, e.last)
    let used := (extensions.filter fun e => i ∈ e.scripts).map fun e => (e.first, e.last)
    Ranges.union (Ranges.diff (rangesWhere runs fun v => v = i) (Ranges.normal special)) (Ranges.normal used)

/-- Whether a character belongs to the script with a name. -/
def isOf (c : Char) (name : String) : Bool := numberOf? name = some (valueIn runs c.toNat)

end YamlSchema.Text.Unicode.Script
