import YamlSchema.Text.Unicode.Ranges

/-!
# Segmentation

The classes of characters by which a text is cut into clusters, words and sentences.  Names are in loose form: small
letters without marks between them.
-/

namespace YamlSchema.Text.Unicode.Segmentation

private def rangesOf? (names : List (List String)) (data name : String) : Option Ranges :=
  (names.findIdx? fun aliases => name ∈ aliases).map fun i => rangesWhere (decodeRuns data) fun v => v = i

private def clusterNames : List (List String) :=
  [["control", "cn"], ["cr"], ["lf"], ["extend", "ex"], ["prepend", "pp"], ["spacingmark", "sm"], ["l"], ["v"], ["t"],
   ["lv"], ["lvt"], ["regionalindicator", "ri"], ["zwj"]]

private def clusterData : String :=
  String.join
    ["092001100HDYU0X0DC00DoH3ZFDeI36De63XCD030D031D031D030DXN45D93AD000DXD3KDF30DZ43640D035D131D033DX040D030D",
     "T3QDYQ3ADXP38D830DN33D038D032D034DXA32DXJ41D438DX93N403V50DXL305030D05237533051D036D931DS3051DXN30D03051",
     "33D151D15130D830D931DP30D13150DXN30D05231D331D132D230DT31D230DA3150DXN30D05234D03150D05130DJ31DL35D03051",
     "DXN30D0315033D151D15130D632D931DT30DXQ30503051D252D05230D830DX7305230DXM30D03253D032D033D631DA31DS3051DX",
     "N30D05031503051D032D033D631DA31DE50DB3151DXM31D0305133D052D0523040D730D931DS3051DY530D3305132D030D05630D",
     "H51DXS30D05036DB37DZ130D05038DA36DY831DQ30D030D030D351DXG3D5034D031D43AD03X3D830DZ5335035D0315131DM5131D",
     "332DF33DC30D05031D530DE30DZ16YV7Y78YNDgS32DzH33DR32DS31DT31DXV3150365730513AD830DXC320030DZK31DX130DZL32",
     "533152D351305532DcQ315130DXO50305036D030D030D1375539D130DXF3UDXG3350DXE395332DX538DB3150DT50335135DXN305",
     "03152305034DXF57375131DaN32D03C5036D330D530D15031Dc53XVDmA0030C001DN06DXG0FDYV3X0DY-T32DaC30DYV3VDn935DZ",
     "831DzkJ33D039DV31DYF31DeF30D230D330DM513150D330DYI51DXH5F31DP3HDC30DX537DO3A5030DB6SD23250DXE30513351315",
     "130DX330DY23551315131DB30D73050DXD30DXI30D032D131D431D030DX8503151D45030DdB5130513051D05030DH90AQ90AQ90A",
     "Q90AQ90AQ90AQ90AQ90AQ90AQ90AQ90AQ90AQ90AQ90AQ90AQ90AQ90AQ90AQ90AQ90AQ90AQ90AQ90AQ90AQ90AQ90AQ90AQ90AQ90A",
     "Q90AQ90AQ90AQ90AQ90AQ90AQ90AQ90AQ90AQ90AQ90AQ90AQ90AQ90AQ90AQ90AQ90AQ90AQ90AQ90AQ90AQ90AQ90AQ90AQ90AQ90A",
     "Q90AQ90AQ90AQ90AQ90AQ90AQ90AQ90AQ90AQ90AQ90AQ90AQ90AQ90AQ90AQ90AQ90AQ90AQ90AQ90AQ90AQ90AQ90AQ90AQ90AQ90A",
     "Q90AQ90AQ90AQ90AQ90AQ90AQ90AQ90AQ90AQ90AQ90AQ90AQ90AQ90AQ90AQ90AQ90AQ90AQ90AQ90AQ90AQ90AQ90AQ90AQ90AQ90A",
     "Q90AQ90AQ90AQ90AQ90AQ90AQ90AQ90AQ90AQ90AQ90AQ90AQ90AQ90AQ90AQ90AQ90AQ90AQ90AQ90AQ90AQ90AQ90AQ90AQ90AQ90A",
     "Q90AQ90AQ90AQ90AQ90AQ90AQ90AQ90AQ90AQ90AQ90AQ90AQ90AQ90AQ90AQ90AQ90AQ90AQ90AQ90AQ90AQ90AQ90AQ90AQ90AQ90A",
     "Q90AQ90AQ90AQ90AQ90AQ90AQ90AQ90AQ90AQ90AQ90AQ90AQ90AQ90AQ90AQ90AQ90AQ90AQ90AQ90AQ90AQ90AQ90AQ90AQ90AQ90A",
     "Q90AQ90AQ90AQ90AQ90AQ90AQ90AQ90AQ90AQ90AQ90AQ90AQ90AQ90AQ90AQ90AQ90AQ90AQ90AQ90AQ90AQ90AQ90AQ90AQ90AQ90A",
     "Q90AQ90AQ90AQ90AQ90AQ90AQ90AQ90AQ90AQ90AQ90AQ90AQ90AQ90AQ90AQ90AQ90AQ90AQ90AQ90AQ90AQ90AQ90AQ90AQ90AQ90A",
     "Q90AQ90AQ90AQ90AQ90AQ90AQ90AQ90AQ90AQ90AQ90AQ90AQ90AQ90AQ90AQ90AQ90AQ90AQ90AQ90AQ90AQ90AQ90AQ90AQ90AQ90A",
     "Q90AQ90AQ90AQ90AQ90AQ90AQ90AQ90AQ90AQ90AQ90AQ90AQ90AQ90AQ90AQ90AQ90AQ90AQ90AQ90AQ90AQ90AQ90AQ90AQ90AQ90A",
     "Q90AQ90AQ90AQ90AQ90AQ90AQ90AQ90AQ90AQ90AQ90AQ90AQ90AQ90AQ90AQ90AQ90AQ90AQ90AQ90AQ90AQ90AQ90AQ90AQ90AQ90A",
     "Q90AQ90AQ90AQ90AQ90AQ90AQ90AQ90AQ90AQ90AQ90AQ90AQ90AQ90AQ90AQ90AQ90AQ90AQ90AQ90AQ90AQ90AQ90AQ90AQ90AQ90A",
     "Q90AQ90AQ90AQ90AQ90AQ90AQ90AQ90AQ90AQ90AQ90AQ90AQ90AQ90AQ90AQ90AQ90AQ90AQ90AQ90AQ90AQ90AQ90AQ90AQ90AQ90A",
     "Q90AQ90AQ90AQ90AQ90AQ90AQ90AQ90AQ90AQ90AQ90AQ90AQ90AQ90AQ90AQ90AQ90AQ90AQ90AQ90AQ90AQ90AQ90AQ90AQ90AQ90A",
     "Q90AQ90AQ90AQ90AQ90AQ90AQDB7MD38XGDev130Dt03FDF3FDcE00DaT31DYF0BDm030Dd130DaK34DXq532D031D433DX732D330Db",
     "431DnS33DY034DfS31DYE33DY53ADXG33DZP503050DXK3EDX830D131D93250DXC52335131D140D330D940DXH32DX3345037DF51D",
     "XB30DB3150DXF52385030D041D433D05030DYR52325133D530D130DaS305237DK3151DXM31D030503053D151D15130D830D951D1",
     "36D234DY2305135D030D130D03250D05132D030DD31DYH523751325030DM30DYG3051355030513050315031DdA305133D1533150",
     "31DQ31DYH523751305031DZ93050305137DZ432D1335034DdV52385031DdK3054D051D1334050405030DaC5233D1315330D250DR",
     "39DX735504033D730D8355132DX7453C5031DiK5036D0355030DYH3LD0503650315031DZP35D230D031D0364030DY154D031D051",
     "305030DgQ3151D8314050DXF5134D25132DM30DbcK0F30D53EDhc73B5232DYjV34DXQ36DXWN30D05XMD633DYG30DA31DpbA31D00",
     "3DaoR3XDD13MDmT34D2350737D136DT33DaJ32DXzQ3XMD33XHD730DD30DL34D03EDXgF36D03GD136D031D034DZ330DaV36DhM30D",
     "XS33DlR33DdT31DsV36DZC36DYaQBPDlQ34DuY-V0V3YV0ZV3dF0ZmFDbx-V"]

/-- The characters of a class for cutting clusters. -/
def clusterRanges? (name : String) : Option Ranges := rangesOf? clusterNames clusterData name

private def wordNames : List (List String) :=
  [["aletter", "le"], ["cr"], ["lf"], ["newline", "nl"], ["doublequote", "dq"], ["singlequote", "sq"], ["extend"],
   ["extendnumlet", "ex"], ["format", "fo"], ["hebrewletter", "hl"], ["katakana", "ka"], ["midletter", "ml"],
   ["midnum", "mn"], ["midnumlet", "mb"], ["numeric", "nu"], ["regionalindicator", "ri"], ["wsegspace"], ["zwj"]]

private def wordData : String :=
  String.join
    ["I9203110IJ40I350I3C0I0D0I0E9B0C0I40PI370I00PI930IX300I180I600I0B0I100I40MI00UI00kVI50X16ZF04I001I103C000",
     "I500B002I000I00JI00YII00aAI0660b5I00X5I103I000B00X8C000I56XCI060I061I061I060I79QI39300B0IA85I5C1I16AI080",
     "I20XA6KE9I0E0C0I001600Z2I0006680I0650161I06301E902I100IE8000600T6QI10YO6A00IDE90X06801I1C0I000I160I10L63",
     "006800620064IH0O62I30AI40NI005I081I4680X96N806X00XL62006H00660961I1E9I00F62I007I101I10LI006I000I203I1600",
     "066I161I16200I760I301I00261I1E901I900I060I162I005I301I10LI006I001I001I001I160I064I361I162I260I603I000I6E",
     "9610260IA62I008I002I00LI006I001I004I1600067I062I062I100IE0161I1E9I80065I062I007I101I10LI006I001I004I1600",
     "066I161I162I662I301I00261I1E9I000IF6000I005I202I003I201I000I001I201I202I20BI364I262I063I100I560IDE9IF640",
     "7I002I00MI00FI1600066I062I063I661I002I100I10161I1E9IF0062I007I002I00MI009I004I1600066I062I063I661I501I00",
     "161I1E9I00160IB6308I002I00X8610066I062I06300I40260I60261I1E9I905I062I00HI20NI008I000I106I260I365I060I067",
     "I5E9I161IXS60I166IB67I0E9IYM60I168IA66I0E9IX500IM61I5E9IA60I060I060I36107I00X3I36JI061046AI06X3I860IZ36J",
     "I0E9IB63I362I062I166I263IC6BI060E963I10X5I000I400I10XAI00gCI003I106I000I003I10X8I003I10X0I003I106I000I00",
     "3I10EI00XOI003I10Y2I162IV0FIF0YLI105I20pBI10GI00PI40YAI20AI60H63I80I62IA0H61IB0CI002I061IXV6VI860I1E9IX0",
     "628060E9I50YOI604610X16000I40Y5I90UI06BI36BI9E9IZVE9IX50M64IXO69I06SI160E9I5E9IL6UIXG640XE6G07I2E9IG68IB",
     "620T6C01E90XB6DIB0X36JI7E9I202E90X3I10AI40XAI102IF62I06K03600560016200I40bV6XV0eLI105I10X5I105I107I000I0",
     "00I000I00UI10XKI006I000I202I006I203I105I30CI402I006IE60H081I7D1I9D0I1B0318470IE71I2C0IE70IA84I089I000IC0",
     "0IF0CIXI6X0IG00I300I109I000I204I500I000I000I003I009I203I404I300IG0X8IvC0BI00X6IXuL0d4I5036201IB0X5I000I4",
     "00I10XNI600IE600MI806I006I006I006I006I006I006I006I06VIXE00IkK00IX365I0A4I401IYR61A1I2AYQI0A3I40XAI00YTIG",
     "0VIXFAFIcFAXEI0AYNIxb70XaCIY20XDI10eCI20FE901IJ0XE63I069I00U610YF61IL0c5I101I000I007IK0F60026003600M64I3",
     "60II0XJIB610XH6HI9E9I56H05I200I00160E90R67I10M6CIB0SI2630XE6DID00E9IA60I9E9I50X86DI802600761I1E9IX062IXH",
     "60I062I161I461I060IT0A64I10261I905I105I105I806I006I00XPI50ZI67I061I1E9I50gz3IB0MI30XGIeu306IB04I4906099I",
     "09CI094I090I091I091I0990Z1IX00hAIH0XVI10XLIX70BI36FC0I1B0C0IA6FI271IN72C0I0D0I0C0B0IP04I00a6I180I6D0I3C0",
     "I0D0I0E9B0C0I40PI370I00PIAAXN610UI205I105I105I102IR82I30BI00PI00II001I00EI10DIX10ZQIY40XKIa760Ia10SI20XG",
     "IE60IU0VIC0TI40X564I40TI10X3I307I004IX90aTI1E9I50X3I30X3I30X7I70XJIB0AI00EI006I001I00AI00EI006I001I20XJI",
     "B0fMI80LI907IN05I00X9I008IY405I100I00XBI001I200I10MI90MI80UIY00II001I90LI90PIY50XNI501IXV0062I061I46303I",
     "002I00SI162I360IV0SI20SIX207I00R61IO0XLI90LI90IIC0HIZD0Y8IXM0XIIC0XIIC0X363I7E9I5E90RI264I00MIdP0X9I061I",
     "201IF02IXM630SI900I70L6AIU0H63IX90KIQ0MI8620XK6EIUE960016100I8630XC6AI180I360I980I10OI6E9I5620X36DI0E9I3",
     "006100I70X260I100I8620XF6D03I363I061E900I000IX20HI00O6BI5600160IXT06I000I003I00EI009I60XE6BI4E9I563I007I",
     "101I10LI006I001I004I0610066I161I162I100I560I40461I166I264IA09I000I100I00X5I00068I060I160I063I064006000IC",
     "61IS0XK6H03I4E9I36002IT0XF6J01I000I7E9Ib50XE66I168IM0361IX10XF6GI200IAE9IX50XA6C00I6E9I5EJIXO6EI3E9Ic50X",
     "B6EIZ40XVE9IK07I100I107I001I00N65I061I16300600061IBE9IY507I10X666I16600I00060IQ00690X7660063I760I7006A0X",
     "D6FI200IH0Y8Ic60X0IEE9I508I00X467I06700IEE9IN0TI16LI06DIY806I001I00X565I260I061I0660060I7E9I505I001I00V6",
     "4I061I06400I6E9IfL0I63I86100600CI00X166I264ICE960IYK00IYE0yPIZ50ZEIG0c3IYoB0Z0IE0XXF8F60056EI90ZyQI40o6I",
     "crO0T6HE9IXs50nOI60UI0E9I50YEI0E9I50TI164IA0XF66I803IBE9I80KI40IIjF0XCI2E9Ic50XVIZV0YAI360006XMI6630CIXV",
     "01I00060IA61Il-TA3I0A6I0A1I0A0IeUA2IXHA0IDA3IYqN0ZAI40CI208I609I261I083IaYBE9Im56XDI16MImT64I2658767I166",
     "IT63IaJ62IjQ0YKI00Y6I001I100I101I103I00BI000I006I00Y0I003I107I006I00RI003I004I000I206I00gJI10OI00OI00UI0",
     "0OI00UI00OI00UI00OI00UI00OI007I1EXHIlV6XMI36XHI760ID60IL64I06EIXYF0UI505IcK66I06GI166I061I064I40XTIX060I",
     "ZF0XCI26606I1E9I300Ig00T60IG0XB63E9IkL0R63E9IcL0T6100E9Il406I003I001I00EI00c4IA66IX80Y36600I3E9IXb503I00",
     "QI001I000I100I009I003I000I000I500I300I000I000I002I001I000I100I000I000I000I000I001I000I103I006I003I003I00",
     "0I009I00GI402I004I00GIpJ0PI50PI70BI109IYRFPIlQ64IX-FE9IuXW680IT6YVIZV6dFIb-mF"]

/-- The characters of a class for cutting words. -/
def wordRanges? (name : String) : Option Ranges := rangesOf? wordNames wordData name

private def sentenceNames : List (List String) :=
  [["aterm", "at"], ["close", "cl"], ["cr"], ["lf"], ["extend", "ex"], ["format", "fo"], ["oletter", "le"],
   ["lower", "lo"], ["upper", "up"], ["numeric", "nu"], ["scontinue", "sc"], ["sep", "se"], ["sp"], ["sterm", "st"]]

private def sentenceData : String :=
  String.join
    ["E8C030C120EHC0D010E312E1A100E099A0E3D0E08P10E010E27P10E010E6B0EPC0E87010E050E670E37010E38ME0867NE0778070",
     "80708070807080708070807080708070807080708070807080708070807080708070807080708070807080708070807080708070",
     "80718070807080708070807080708070807180708070807080708070807080708070807080708070807080708070807080708070",
     "80708070807080708070807081708070807281708070817082718370817082728170817080708070817080718070817082708070",
     "81716080726381708170817080708070807080708070807080708071807080708070807080708070807080708071817080708270",
     "80708070807080708070807080708070807080708070807080708070807080708070807080708070807080708070807080708070",
     "8070807080768170817180708370807080708070807Y4607X36671E36BED74E660E060EG4ZF8070807060E08070E173E080E580E",
     "082E080E081708GE0887X2807182728070807080708070807080708070807080708070807080748070E0807081718XI7XF807080",
     "70807080708070807080708070807080708070807080708070807080708070E04680708070807080708070807080708070807080",
     "70807080708070807080708070807080708070807080708070807080708070807080708170807080708070807080708071807080",
     "70807080708070807080708070807080708070807080708070807080708070807080708070807080708070807080708070807080",
     "7080708070807080708070807080708070807080708070807080708070807080708070807080708070E08X5E160E2A0E17X8D0E6",
     "4XCE040E041E041E040E76QE364EB55E5A1E14AE050D26XA4K99E091E061406Z2D0604650E0456141E043619962E160D2EB50604",
     "06T4QE16YO4A60ED996X04861E1A0D060E140E16L43604860426044E8D0E0D0E2D1E06O42E36AE46NE065E051E4486X94N504X06",
     "XL42604H60466941D199E06F42E067E161E16LE066E060E263E1406046E141E14260E740E361E06241E19961E960E040E142E065",
     "E361E16LE066E061E061E061E140E044E341E142E240E663E060E699416240EA42E068E062E06LE066E061E064E1406047E042E0",
     "42E160EE6141E199E86045E042E067E161E16LE066E061E064E1406046E141E142E642E361E06241E199E060EF4060E065E262E0",
     "63E261E060E061E261E262E26BE344E242E043E160E540ED99EF4467E062E06ME06FE1406046E042E043E641E062E160E16141E1",
     "99EF6042E067E062E06ME069E064E1406046E042E043E641E561E06141E199E06140EB4368E062E06X8416046E042E04360E4624",
     "0E66241E199E965E042E06HE26NE068E060E166E240E345E040E047E599E141EC6XF406146E46647E099EX661E060E064E06NE06",
     "0E06940614860E164E060E046E099E163EV60EM41E599EA40E040E040134167E06X3E34JE041644AE04X3E840EXO6XA4J6099D1E",
     "3654363426042614662436C4B60409943E18X5E080E480E16XAE0706gBE063E166E060E063E16X8E063E16X0E063E166E060E063",
     "E16EE06XOE063E16Y2E142E1D0E3D1EM6FEF8YLE175E26pBE0D06GC06P11E26YAE26AE66H43E86I42D1E86H41EB6CE062E041EB6",
     "XJ4VE260E36040E199ENA0D0E3A0D0E042504099E56YOE664416X14060E46Y5E96UE04BE34BE7D1996TE164EA6XBE36PE599EX56",
     "M44E36XK49E04SE14099E599EC60D3E34UEXG446XE4G67E299D1E1D1EA48E8D1E0426T4C61996XB4DEB6X34JE2D1E299E262996X",
     "3D1788070E46XAE162EF42E04K63406540614260E47bV4XV80708070807080708070807080708070807080708070807080708070",
     "80708070807080708070807080708070807080708070807080708070807080708070807080708070807080708070807080708070",
     "80708070807080708070807080708070807080708070807080708070807080708070807080708070807080708070807080708070",
     "80708070807080708070807080708070807880708070807080708070807080708070807080708070807080708070807080708070",
     "80708070807080708070807080708070807080708070807080708070807080708070807080708070807080708070807080708070",
     "8070807080708070807080788775E185E17787778775E185E177E080E080E080E08077877DE177877787778774E07184E070E272",
     "E07184E273E17183E37784E472E07184E2CA504151E2A1E217E300E2B154C0E811E0D1E611D2EKC054E059E070EA1170EC11E07C",
     "EXI4X0EG80E380E17082718270E080E284E580E080E080E083E07083706370E17181E48073E370EG8F7F62807063EhU13ES11EiA",
     "8P7PEpG15E61DEYE11EU19EiI1LEXU13EV11Em18XF7XF80708271807080708070837080718077827080708070807080708070807",
     "08070807080708070807080708070807080708070807080708070807080708070807080708070807080708070807080708070807",
     "080708070807080708070807080708070807080708070807080708070807080708071E580708070428070EB7X5E070E470E16XNE",
     "660EE406ME866E066E066E066E066E066E066E066E04V1DED11E119E3D060EBD0E410EFD117Ej2C0A0D0E16219E117E012E06845",
     "E064E164E36YLE141E162E06YPE063E46XAE06YTEG6VEXF6FElV6cjVEXV6rqCEY26XDE0D06eCE0D16F9961EJ8070807080708070",
     "80708070807080708070807080708070807080708070807080708070807080708070807080706043E049E0608070807080708070",
     "8070807080708070807080708070807080708072416YF41E0D0E2D0EU68E18070807080708070807080708072807080708070807",
     "08070807080708070807080708070807080708070807080708070807080708070807080708070807080708070807080708070807",
     "08079807080708170807080708070807060E18070807060807080728070807080708070807080708070807080708070847084708",
     "070807080708070807080708070837080708170E18070E070E07080708070807080EK72807060726640624063406M44E340EI6XJ",
     "E1D1E7416XH4HE7D199E54H65E260E06140996R47E0D06M4CEB6SE2436XE4DE6D1E46099E56440699964E06X84DE862406741E19",
     "9E2D26ME260426XH40604261416441604060EN62E16A44D16241E965E165E165E866E066E07XAE07DE57YF6X247D041E199E56gz",
     "3EB6ME36XGEee36hDE16Z9EX576EB74E4604069E06CE064E060E061E061E06ZBEX06hA11EF6XVE16XLEX76BE34FA1E0A0E211E64",
     "FE0A1E11FE111E6A100E1A0D1A015E3A0EB64E06a6E150E0D0E511E1A100E099A0E3D0E08P10E010E27P10E010E011D011A0E06X",
     "N416UE265E165E165E162ER52E36BE06PE06IE061E06EE16DEX16ZQEY46XKEa740Ea16SE26XGEE40EU6VEC6TE46X544E46TE16X3",
     "E367E064EX98X77X76YDE199E58X3E37X3E36X7E76XJEB8AE08EE086E081E07AE07EE076E071E26XJEB6fME86LE967EN706172E0",
     "7X9E078EY465E160E06XBE061E260E16ME96ME86UEY06IE061E96LE96PEY56XNE561EXV6042E041E44363E062E06SE142E340ELD",
     "1E76SE26SEX267E06R41EO6XLE96LE96IEC6HEZD6Y8EXM8XIEC7XIEC6X343E799E599658LE244E0607LEdP6X9E041E261EF62EXM",
     "436SE960E76L4AE3D4EL6H43D3EX56KEQ6ME8426XK4ED1ES9940614160E8436XC4AE150D340E950E16OE699E5426X34DE099E0D2",
     "604160E76X240E160E8426XF4D63D1E143D0419960E060E0D1EV6HE06O4BD1E0D1E0406140EXT66E060E063E06EE069D0E56XE4B",
     "E499E543E067E161E16LE066E061E064E0416046E141E142E160E540E46441E146E244EA69E060E160E06X5E06048E040E140E04",
     "3E044604060EC41ES6XK4H63D1E299E34062ET6XF4J61E060E799Eb56XE46E148E0D1E4DE6341EX16XF4GD1E060EA99EX56XA4C6",
     "0E699E59JER6QE14EE399E1D2E066EbO6XB4EEZ48V7V99EK67E160E167E061E06N45E041E14360406041D0E0D0E899EY567E16X6",
     "46E14660E06040EQ60496X7466043E2D1E240E7604A6XD4FE0D160EH6Y8Ec66X0EE99E568E06X447E04760D1EC99EN6TE14LE04D",
     "EY866E061E06X545E240E041E0466040E799E565E061E06V44E041E04460E699EfL6I43D1E64160406CE06X146E244D1EA9940EY",
     "K60EYE6yPEZ56ZEEG6c3EYoB6Z0EE6XXF5F40654EE96ZyQE46o6EcrO6T4H99EXs56nOE66UE099E3D16YEE099E56TE144D0E96XF4",
     "6D1E663D0EA99E86KE46IEjF6XCE299Ec58V7VEND0EZ66YAE340604XME6436CEXV61E06040EA41ED6b-NE76XcLEX869Eet663E06",
     "6E061E06f2EE60ES62E160ED63E76iBEYe36ZAE46CE268E669E241D053EaYB99Em54XDE14MEmT44E2455747E146ET43EaJ42EjQ8",
     "P7P8P76E07H8P7P80E081E180E181E183E08773E070E076E07A8P7P81E083E187E086E07P81E083E084E080E286E07P8P7P8P7P8",
     "P7P8P7P8P7P8P7RE18OE07OE0758OE07OE0758OE07OE0758OE07OE0758OE07OE0758070E19XHElV4XME34XHE740ED40E2D0EH44E",
     "04EEXYF79607JE575EcK46E04GE146E041E044E47XTEX040EZF6XCE24666E199E360Eg06T40EG6XB4399EkL6R4399EcL6T416099",
     "El466E063E061E06EE06c4EA46EX88X17X14660E399EXb563E06QE061E060E160E069E063E060E060E560E360E060E060E062E06",
     "1E060E160E060E060E060E060E061E060E163E066E063E063E060E069E06GE462E064E06GEpJ8PE58PE58PEXdB12EXhM99EXW56X",
     "fsVEV6aXPE56cTE16bq1ED6dfGEE6pDEYj16mTEXl16awAE46aYVErtYG50ET4YVEZV4dFEb-mF"]

/-- The characters of a class for cutting sentences. -/
def sentenceRanges? (name : String) : Option Ranges := rangesOf? sentenceNames sentenceData name

end YamlSchema.Text.Unicode.Segmentation
