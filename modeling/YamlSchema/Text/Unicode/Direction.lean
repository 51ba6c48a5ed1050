import YamlSchema.Text.Unicode.Ranges

/-!
# Directions of writing

The class of a character in texts that are written to the left or to the right.
-/

namespace YamlSchema.Text.Unicode

inductive Direction where
  | leftToRight
  | rightToLeft
  | arabicLetter
  | arabicNumber
  | europeanNumber
  | europeanSeparator
  | commonSeparator
  | europeanTerminator
  | otherNeutral
  | boundaryNeutral
  | nonspacingMark
  /-- Separators, white space and marks that embed a text of the other direction. -/
  | other
  deriving DecidableEq, Repr

namespace Direction

private def data : String :=
  String.join
    ["98B49DB4817284506050614960850P850P8395B09P608073830081908171418000824000840M800U800k081068D018D0488008GA",
     "ZF03810780048100800ZD800aBA60dV8001817010AXC10A010A110A110A01XN3581207120602081AA2XFAK39703122A02Z4A6308",
     "0A521A180A321492MA02TAQ2YQAA2E1XAA8118312A01NA310A810A210A41XAA2132XF3124A82X9AN30AV0XMA000A003A703A002A",
     "609A10SA00XPA003A307A00JA10D71067001A001A10XOA003A103A101A202A00TA102A00AA10XOA003A400A103A00JA10C7007A5",
     "00A00XPA001A000A307A006A10AA10TA00XSA00BA00X485708004A002A00XMA000A204A200A306A10AA10J8601A00XPA00EA10JA",
     "10RA10XOA103A307A00JA10SA00Y7A006A200A00YPA001A6037006A70Z1A001A80AA60Y8A10QA000A000A0830XIAD00A400A104A",
     "A00AX308A00Z5A300A500A101A10OA103A20FA30CA001A105A00EA00rUA20XF890Z5800pUB00P810ZKA20SA10TA10TA10XVA100A",
     "607A001AA067000A00H89058AA290A00ZKA10X1A00ZLA203A108A005A2038002810aN8X10MA101A00XPA000A600A000A001A705A",
     "901A00XFAU0XGA30XFA000A400A004A00X7A80BA10VA301A100A20XNA000A102A000A20XPA701A10aNA200AC00A603A005A002A1",
     "0c5AXV0jS8000820A820C820C820C8100BA9200108NB660748E608PB095B3954002455182004951820G7XFAX00E8100830081098",
     "00082048500800080008003700A8103840483018F0X882038a150708f10Y48P008aJ0L8A0K8X74J0YD8k1008gI0dV8pJ018V008Z",
     "80d48503A206860ZUA00YVAV8YT0X18P008YO0B8cL0P8FB083028O08A30180048104820YOA18102800YP800c38X508800XC810XG",
     "8F0R820XH8E0B830b6830Z2810U800cjV8XV0rqF8XM0g5820YUA380A9810TA10YFA10D8X10Z5800ZOA002A003A00OA10083A00A7",
     "10XP830YBA10PAH0CA00X5A70OAA0XDA20XFA001A301A10X6A00Y2A501A101A10BA007A00XEA00XIA000A201A104A100A00X9A10",
     "7A00ZI810ZOA001A003A00pvE10A019501X52lD8H2ZU809V2C82AF8905AF8V608060008060887081518200807180032aE9000817",
     "284506050614960850P850P8A0ZP7182710086009884910e0800XT8YC028C02800YRA00d1A04Q0ZPA40Xa41eU801d0A210A114A3",
     "1X7A213A01b4A11YH861jV2X3A32739251X8A4801dG3U1XBA11I2XRA31XF2LAA2U1HA31ZP00A00XLAE0A8J09A001A109A20XGA30",
     "1A106A00XSA20X3A400A70XTA00BA10XJA809A301A00YUA201A000A105A001A00aSA002A70KA10XOA102A00X4A602A40Y5A50CA0",
     "00A000A00DA10YKA701A200A00MA00YJA500A003A100A10dDA305A100A10QA10YKA701A000A10U8C0XTA000A001A500A00Z4A201",
     "A300A40e2A800A10dVA100A003A00aFA301A103A00VA501A10X7A501A307A008A501A20XDAC00A10iLA600A50YJAL01A600A100A",
     "10ZPA502A000A100A600A00Y7A102A000A00gQA10AA10XJA404A000A00MA00ZP87738G0bYDA005AE0hc7AB02A20YjVA40XQA60XW",
     "NA00XUA30YE8000A00pbNA100930ZwR8dF49058jJ0YBAXD01AM0mVA20897A701A60TA30XQ810K8Y1A2800bP8YM0y3800XO800XO8",
     "00XO800XO80094XH0lVAXM03AXH07A00DA00LA400AE0XgFA600AG01A600A100A40Z3A00aVA60hMA00XSA30E700lBA30dTA10mF1c",
     "FA61ZCA61v42YF1XV2YF1bF2dF812D1dV8XB038Z30B8E018E008E008X4094A840U800XP850XS800bH850aP8+N038G028C028ZM03",
     "8YU058B03800E8B038XN0789058X7078T018B03810XT8gJ0B8D018C0289048XN068E018A0588068aI008YR490XW3910X--T910X-",
     "-T910X--T910X--T910X--T910X--T910X--T910X--T910X--T910X--T910X--T910X--T9e1AdF9ZmF0Xx-T910X--T910X--T91"]

private def inOrder : List Direction :=
  [.leftToRight, .rightToLeft, .arabicLetter, .arabicNumber, .europeanNumber, .europeanSeparator, .commonSeparator,
    .europeanTerminator, .otherNeutral, .boundaryNeutral, .nonspacingMark]

private def runs : List Run := decodeRuns data

def ofChar (c : Char) : Direction := (inOrder[valueIn runs c.toNat]?).getD .other

end Direction

end YamlSchema.Text.Unicode
