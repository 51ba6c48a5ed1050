import YamlSchema.Text.Unicode.Ranges

/-!
# General categories

Every character has a general category, such as a capital letter or a currency sign; categories form groups.  Their
names are in loose form: small letters without marks between them.
-/

namespace YamlSchema.Text.Unicode.Category

/-- The categories in the order of their numbers, by their names. -/
def names : List (List String) :=
  [["lu", "uppercaseletter"], ["ll", "lowercaseletter"], ["lt", "titlecaseletter"], ["lm", "modifierletter"],
   ["lo", "otherletter"], ["mn", "nonspacingmark"], ["mc", "spacingmark"], ["me", "enclosingmark"],
   ["nd", "decimalnumber", "digit"], ["nl", "letternumber"], ["no", "othernumber"], ["pc", "connectorpunctuation"],
   ["pd", "dashpunctuation"], ["ps", "openpunctuation"], ["pe", "closepunctuation"], ["pi", "initialpunctuation"],
   ["pf", "finalpunctuation"], ["po", "otherpunctuation"], ["sm", "mathsymbol"], ["sc", "currencysymbol"],
   ["sk", "modifiersymbol"], ["so", "othersymbol"], ["zs", "spaceseparator"], ["zl", "lineseparator"],
   ["zp", "paragraphseparator"], ["cc", "control", "cntrl"], ["cf", "format"], ["co", "privateuse"],
   ["cn", "unassigned"]]

/-- The groups of categories, by their names. -/
def groups : List (List String × List String) :=
  [(["l", "letter"], ["lu", "ll", "lt", "lm", "lo"]), (["lc", "casedletter"], ["lu", "ll", "lt"]),
   (["m", "mark", "combiningmark"], ["mn", "mc", "me"]), (["n", "number"], ["nd", "nl", "no"]),
   (["p", "punctuation", "punct"], ["pc", "pd", "ps", "pe", "pi", "pf", "po"]),
   (["s", "symbol"], ["sm", "sc", "sk", "so"]), (["z", "separator"], ["zs", "zl", "zp"]),
   (["c", "other"], ["cc", "cf", "co", "cn"])]

private def data : String :=
  String.join
    ["PVM0H2J0H2D0E0H0I0H0C0H189H1I2H10PD0H0E0K0B0K01PD0I0E0I0PX0M0H0J3L0H0K0L040F0I0Q0L0K0L0I0A1K010H1K0A040G",
     "0A2H00MI0061NI017001000100010001000100010001000100010001000100010001000100010001000100010001000100010001",
     "00010001000100010001000110010001000100010001000100010001100100010001000100010001000100010001000100010001",
     "00010001000100010001000100010001000100010001001100010001201100010011002110310011002120110011000100010011",
     "00011001001100210001001114000124300201000201000201000100010001000100010001000100011001000100010001000100",
     "01000100010001100201000100210001000100010001000100010001000100010001000100010001000100010001000100010001",
     "000100010001000100010001000100010001000160110011100100310001000100010001Y4411P3HK33BKD34K630K030KG5ZF001",
     "0001030K00010S13012H000S3K100H002S000S001100GS0081X20011021200100010001000100010001000100010001000100010",
     "00140010I0001001110XI1XF00100010001000100010001000100010001000100010001000100010001000100010L05471001000",
     "10001000100010001000100010001000100010001000100010001000100010001000100010001000100010001000100010001001",
     "10001000100010001000100011001000100010001000100010001000100010001000100010001000100010001000100010001000",
     "10001000100010001000100010001000100010001000100010001000100010001000100010001000100010001000100010001000",
     "1000100010S00X5S130H51X8H0C0S1L1J0S05XCC050H051H051H050S74QS343H1SAQ5I2H1J0H1L15AH0Q0H24V30495K89H341504",
     "Z2H04056Q0L0553151L053418942L140HDS0Q040504T5QS14YO5A40SD894X05831L0H230S150J14L53305830523054S1HES04O52",
     "S1H0S04AS44NK045S0Q1S4584X8305NQ05V604XL50605040625763506140564951H189H0304E5061S047S141S14LS046S040S243",
     "S150406253S161S1615040S760S341S04251S18941J1A5L0J040H050S15160S045S341S14LS046S041S041S041S150S06251S351",
     "S152S250S643S040S689514250H0S95160S048S042S04LS046S041S044S150406254S05160S06150S140SE4151S189H0J0S64055",
     "S05061S047S141S14LS046S041S044S1504060506053S161S16150S65160S341S04251S189L040A5S95040S045S242S043S241S0",
     "40S041S241S242S24BS3615061S262S06250S140S560SD89A2L5J0L0S450625047S042S04MS04FS150405263S052S053S651S042",
     "S140S14151S189S6H0A6L0405061H047S042S04MS049S044S15040605064S05061S06151S661S541S04151S189S04160SB516148",
     "S042S04X851406253S062S0625040L0S34260A64251S189A8L045S05061S04HS24NS048S040S146S250S36252S050S067S589S16",
     "1H0SB4XF504156S3J0453057H089H1SX441S040S044S04NS040S04950415840S144S030S056S089S143SV40L2HEL0H0L251L589A",
     "9L050L050L050D0E0D0E06147S04X3S35D6054H051445AS05X3S0L750L5S0L1H4L3H1SX44XA61536055605161514089H54561514",
     "3524062416642534C50615165504060896250L10X5S000S400S11XAH030124g8S043S146S040S043S14X8S043S14X0S043S146S0",
     "40S043S14ES04XOS043S14Y2S152H8AJS24FL9S50YLS115S1C04pBL0H04GM04PD0E0S24YAH29247S64H5260S84I5160H1S84H51S",
     "B4CS042S051SB4XJ5160566750615AH230H2J04050S189S5A9S5H5C0H352Q05089S54X2304XKS644514X15040S44Y5S94US05263",
     "5162S361506552S3L0S2H1894TS144SA4XBS34PS589A0S2LX14M516150S1H14XK60506056S050605061576559S15089S589S5H63",
     "0H5S15D705FSXG53604XE506054605064506147S0H189H6L958L8H251604T60536151605241894XB5060516250605261S7H34X36",
     "7576151S2H489S242894T35H1180010S40XAS102H7S752H05C60564350455041605140S41XB3XU1C301X13X45XV0010001000100",
     "01000100010001000100010001000100010001000100010001000100010001000100010001000100010001000100010001000100",
     "01000100010001000100010001000100010001000100010001000100010001000100010001000100010001000100010001000100",
     "01000100010001000100010001000100010001000100010001000100010001000100010001000180010001000100010001000100",
     "01000100010001000100010001000100010001000100010001000100010001000100010001000100010001000100010001000100",
     "01000100010001000100010001000100010001000100010001000100010001000180715S105S11707170715S105S117S000S000S",
     "000S00017071DS117271727172714S0110320K010K212S0110320K213S11103S0K21704K2S112S0110320K1S0MAQ4C5H1F0G0D0F",
     "1G0D0F0H7N0O0Q4M0H8F0G0H3B1H2I0D0E0HAI0H0B0H9M0Q4S0Q9A030S1A5I2D0E030A9I2D0E0S03CS2JX0SE5C7350725BSEL100",
     "L300L11002110210L000L1I004L500L000L000L003L01003104310L11101I40013L0I0L110L0AF9X2001093A0L1S3I4L4I1L3I0L",
     "1I0L1I0L6I0LUI1L1I0L0I0LUIeBL7D0E0D0E0LJI1L6D0E0LYGI0LTIOLX7I5LY7SLLASKAXRLYDALLbMI0L8I0LXLI7LZEI0LdND0E",
     "0D0E0D0E0D0E0D0E0D0E0D0E0ATLXBI4D0E0IUD0E0D0E0D0E0D0E0D0E0IFLdVIa2D0E0D0E0D0E0D0E0D0E0D0E0D0E0D0E0D0E0D0",
     "E0D0E0IXUD0E0D0E0IVD0E0Ie1LXFIKL1I5LX6S1LVS0LZ80XF1XF001002110010001000100310001100153102100010001000100",
     "01000100010001000100010001000100010001000100010001000100010001000100010001000100010001000100010001000100",
     "0100010001000100010001000100010001000100010001000100010001000100010001000100011L500100010520010S4H3A0H11",
     "X5S010S410S14XNS630H0SD504MS846S046S046S046S046S046S046S046S05VH1F0G0F0G0H2F0G0H0F0G0H8C0H1C0H0F0G0H1F0G",
     "0D0E0D0E0D0E0D0E0H430H9C1H3C0H0D0HCL1H2D0E0D0E0D0E0D0E0C0SX1LPS0LYOSBLcLSPLFM0H2L0304090D0E0D0E0D0E0D0E0",
     "D0E0L1D0E0D0E0D0E0D0E0C0D0E1L0985361C034L1923040H0L1S04YLS151K13140C04YPH03240S44XAS04YTS0L1A3L94VLX5S8L",
     "04FLUS0A9LTA7L0AELVA9LX6AELfV4cjVLXV4qmK304XZMS2LXMS84X735H14eB30H24F8941SJ00100010001000100010001000100",
     "010001000100010001000100010001000100010001000100010001000100010405072H059H030001000100010001000100010001",
     "0001000100010001000100010001031514Y59951H5S7KM38K1001000100010001000100010001200100010001000100010001000",
     "10001000100010001000100010001000100010001000100010001000100010001000100010001000100010001000100010301700",
     "1000100110001000100010001030K100100010400010001200100010001000100010001000100010001000100410041000100010",
     "00100010001000100010031000100110S10010S010S01000100010001000SK3200104031104650425043504M615160L350S2A5L1",
     "J0L0S54XJH3S7614XH6F51S7H189S55H45H240H04150894R57H14M5A61SAH04SS252604XE506153615162HCS03089S3H14450304",
     "88944S04X85561516151S84250475060S189S1H34F3045L2406050604XH50405241514451405040SN4130H14A605161H14031605",
     "0S945S145S145S846S046S01XAK0331830K1S31YF4X26150615061H06050S189S54gz3SB4MS34XGS3TX-VRcdV4hDS14Z9SX516SB",
     "14S4405049I04CS044S040S041S041S04ZBKGSF4hAE0D0LF4XVS14XLS6L0SV4BJ0L25FH6D0E0H0S55FH0C1B1D0E0D0E0D0E0D0E0",
     "D0E0D0E0D0E0D0E0H1D0E0H3B2H2S0H3C0D0E0D0E0D0E0H2I0C0I2S0H0J0H1S344S04a6S1Q0S0H2J0H2D0E0H0I0H0C0H189H1I2H",
     "10PD0H0E0K0B0K01PD0I0E0I0D0E0H0D0E0H149304XC314US245S145S145S142S2J1I0K0L0J1S0L0I3L1S9Q2L1S14BS04PS04IS0",
     "41S04ES14DSX14ZQS4H2S3AXCS2L89XKA3LGA1L2S0LCS2L0SXELXC50Sa14SS24XGSE50AQS34VA3S84J904790S44X554S44TS0H04",
     "X3S347H094SX90X71X74YDS189S50X3S31X3S34X7S74XJSAH00AS00ES006S001S01AS01ES016S011S24XJSB4fMS84LS947SN35S0",
     "3X9S038SY445S140S04XBS041S240S14MS0H0A74ML1A64US7A8SXF4IS041S4A44LA5S2H04PS4H0SXV4XNS3A141AFS1AXD4052S05",
     "1S45343S042S04SS152S350A8S6H8S64SA1H04SA2SV47L04R51S3A4H6S84XLS2H64LS1A74IS4A74HS6H3SBA6SYF4Y8SXM0XISC1X",
     "IS6A54X353S789S5894330400LS254C0301LS7I1ScFAUS04X9S051C0S141SF42SXM534SA940S74L5AA3H4SL4H53H3SX54KA6SJ4M",
     "S86050604XK5EH6S3AJ8950415140S852604XC62536151H1Q0H350S9Q0S14OS689S5524X3546057S089H3406140S74X250H140S8",
     "51604XF62586143H353H060508940H040H2S0AJSA4HS04O625261506051H5504150SXT46S040S043S04ES049H0S54XE506257S48",
     "9S55161S047S141S14LS046S041S044S05140615063S161S162S140S560S44461S156S254SA49S040S140S04X5S0406255S060S1",
     "60S063S061506050405040H1S0H1S751SS4XK62576152605043H489H1S0H05042ST4XF625560506351605141H040S789Sb54XE62",
     "53S163516051HM4351SX14XF625761506051H240SA89S5HCSI4XA5060506155605040H0S589S58JSR4QS150605061536054S389A",
     "1H2L046SbO4XB62586051H0SZ30V1V89A8SB47S140S147S041S04N65S061S15160504060406050H2S889SY547S14X66253S15163",
     "5040H04060SQ40594X755604053H750S7405561524XD5C6051H240H4SC4Y8S6H9SbL4X0H0SD89S548S04X46056S055605040H4S9",
     "89AIS2H14TS15LS0605660516051SY846S041S04X555S250S051S0564050S789S545S041S04V64S051S06150605040S689SfL4I5",
     "161H1S65140604CS04X16154S261506050HC8950SYK40SEAKL7J3LGSCH04yPSZ59ZES0H4SA4c3SYoB4Z0H1SC4XXFQF50455ES94Z",
     "yQS44o6ScrO4T5B625289SXs54nOS64US089S3H14YES089S54TS154H0S94XF56H4L333H0L0S989S0A6S04KS44ISjF324X731H289",
     "Sc50V1VAMH3SZ44YAS350406XMS6533CSXV31H03050SA61SD4b-NS74XcLSX849Set633S036S031S04f2SE40SS42S140SD43S74iB",
     "SYe34ZAS44CS248S649S1L051H0Q3SZwRLdF89S5LjJSYB5XDS15MS8LZJSXRLdLS9LX6S1LXR6152L265Q757L156LT53LXSSKLY152",
     "L0SZPAJSBAJSBLYMS8AOSa60P1P0P16S01H0P1P00S001S100S101S103S00713S010S016S01A0P1P01S003S107S006S01P01S003S",
     "004S000S206S01P0P1P0P1P0P1P0P1P0P1P0P1RS10OI01OI0150OI01OI0150OI01OI0150OI01OI0150OI01OI0150010S18XHLlV5",
     "XML35XHL750LD50L1H4SE54S05ESXYF19401JS515ScK56S05GS156S051S054S43XTSX050SZF4XCS25636S189S340L0SfV4T50SG4",
     "XB5389S4J0SkF4Q305389ScL4T514089S3H0SkV46S043S041S04ES04c4S1A856SX80X11X15630S389S3H1SuGAXQL0A2J0A3SYBAX",
     "CL0AESc143S04QS041S040S140S049S043S040S040S540S340S040S040S042S041S040S140S040S040S040S040S041S040S143S0",
     "46S043S043S040S049S04GS442S044S04GSXJI1SeDLXBS3LZ3SBLES1LES0LES0LX4S9ACLb0SXNLSSCLXBS3L8S6L1SDL5SaPLdQK4",
     "LsNS3LGS2LCS2LZMS3LYUS5LBS3L0SELBS3LXNS7L9S5LX7S7LTS1LBS3L1SXTLgJSBLDS1LCS2L9S4LXNS6LES1LAS5L8S6LaIS0LYR",
     "89SXW54XfsVSV4aXPS54cTS14bq1SD4dfGSE4pDSYj14mTSXl14awAS44aYVSrtYGQ0STQYVSZV5dFSX-mFRX--TS1RX--TS1"]

/-- The runs of characters of one category; one past the last number stands for what is no character. -/
def runs : List Run := decodeRuns data

/-- The number of the category that a character has. -/
def number (c : Char) : Nat := valueIn runs c.toNat

/-- The number that a name of a category stands for. -/
def numberOf? (name : String) : Option Nat := names.findIdx? fun aliases => name ∈ aliases

/-- Whether the category of a character is one of those that are named. -/
def isOneOf (c : Char) (wanted : List String) : Bool :=
  ((names[number c]?).getD []).any fun name => name ∈ wanted

/-- The characters of a category or of a group of categories. -/
def ranges? (name : String) : Option Ranges :=
  match numberOf? name with
  | some i => some (rangesWhere runs fun v => v = i)
  | none => (groups.find? fun g => name ∈ g.1).map fun g =>
      let members := g.2.filterMap numberOf?
      rangesWhere runs fun v => v ∈ members

end YamlSchema.Text.Unicode.Category
