import YamlSchema.Text.Unicode.Ranges

/-!
# Joining of letters

How a letter of a cursive script is joined with the letters beside it.
-/

namespace YamlSchema.Text.Unicode

inductive Joining where
  | none
  | both
  | right
  | left
  | transparent
  | causing
  deriving DecidableEq, Repr

namespace Joining

private def data : String :=
  String.join
    ["0bC400oH4ZF0eI460e64XC00400041004100400Y74A0040021000231020102014231C501620114K0D11402200221F2H1X5201128",
     "10201020112100204601450141004321091201100E4020401224132018201020102011204Q01201A221E21132010211221150X54",
     "A0O1X048055001400N430048004200440H201421102019201022420310001300201021042I521001142007481922002011211520",
     "1E004N004V0XM40004003470340024609410S400XP40034307400J410P4001410XO4003410341014202400T4102400A410XO4003",
     "44004103400J410L4500400XP4001400043074006410A410T400XS400B400XH4002400XM4000420442004306410A410S400XP400",
     "140054004410J410R410XO41034307400J410S400Y740064200400YP4001460B470Z14001480A460Y8410Q40004000400XM4D004",
     "40041044A004X308400Z5430045004101410O4103420F430C40014105400E400rU420zH420S410T410T410XV4100460740014A08",
     "400X81001504200400F1YO0B411X140100ZK420341084005420cQ4101400XP400046004000400147054901400XF4U0XG430XF400",
     "044004004400X7480B410V43014100420XN400041024000420XP4701410aN42004C00460340054002410c54XV0mA400050410P44",
     "0XG4404450YV4X00Y-T420aC400YV4V0n9430ZA410zkJ4300490V410YF410eF40024003400O4104400I1XH300YG410P4H0C400X5",
     "470O4A0XD420XF40014301410X6400Y245014101410B4007400XE400XI4000420141044100400X94107400dD40014003400pvF40",
     "0t04F0F4F0cE400dO420m0400d1400aK440Xq542004104430X74203400ZV1420002000210130241330142012200120410313200a",
     "F1020102212201120102110200M23110gG301X02010430Y0440fS410K20110XM430XF12201G004A12200Q13211B430X910001122",
     "00102111201100102110032010300XK400XL4E0X840014109420XG43014106400XS420X34400470XT400B410XJ48094301400YU4",
     "201400041054001400aS4002470K410XO4102400X44602440Y5450C40004000400D410YK47014200400M400YJ450040034100410",
     "dD43054100410Q410YK47014000410Z9400040014500400Z4400040014300440e24800410dV41004003400aF43014103400V490X",
     "74501430740084501420XD4C00410iL46004500400YH4L0146004100410ZP4502400041004600400Y741024000400gQ410A410XJ",
     "44044000400M400bcK4G054E0hc74B02420YjV440XQ460XWN400XU430YG400pbN4100430aoR4XD014M0mV42084F01460T430aJ42",
     "0XzQ4XM034XH07400D400L44004E0XgF46004G0146004100440Z3400aV460hM400XS430lR430dT410sV460X81Y3470ubrK400T4Y",
     "V0ZV4dF0b-mF"]

private def inOrder : List Joining := [.none, .both, .right, .left, .transparent, .causing]

private def runs : List Run := decodeRuns data

def ofChar (c : Char) : Joining := (inOrder[valueIn runs c.toNat]?).getD .none

end Joining

end YamlSchema.Text.Unicode
