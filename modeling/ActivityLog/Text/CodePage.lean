import ActivityLog.Text.Hex

/-!
# Code pages

A code page has one character for each byte, or none. In most of them the bytes of ASCII stand for themselves.
Names are in small letters, words joined by `_`, each page's own name first. Main statement: the bytes below a page's
first own one stand for themselves (`code?_of_lt`).
-/

namespace ActivityLog.Text

/-- A code page, with the names it is known by, its own name first. -/
structure CodePage where
  names : List String
  /-- The first byte that the page itself describes. -/
  first : Nat
  /-- Four hexadecimal digits for each byte from the first one on; `fffe` for a byte without a character. -/
  digits : List String

namespace CodePage

/-- What stands for no character. -/
def unused : Nat := 0xFFFE

/-- The code points of the bytes that a page describes. -/
def codes (p : CodePage) : Array Nat :=
  let value (n : Nat) (c : Char) : Nat := n * 16 + (hexValue? c).getD 0
  let rec chunks : List Char → List Nat
    | a :: b :: c :: d :: rest => [a, b, c, d].foldl value 0 :: chunks rest
    | _ => []
  (p.digits.flatMap fun line => chunks line.toList).toArray

/-- The code point that a byte stands for, by the code points of the page. -/
def code? (p : CodePage) (codes : Array Nat) (byte : Nat) : Option Nat :=
  if byte < p.first then some byte
  else match codes[byte - p.first]? with
    | some n => if n = unused then none else some n
    | none => none

theorem code?_of_lt {p : CodePage} {codes : Array Nat} {byte : Nat} (h : byte < p.first) :
    p.code? codes byte = some byte := by
  simp [code?, h]

/-- The text that bytes spell, or the place of the first byte without a character. -/
def decode (p : CodePage) (bytes : List UInt8) : Except Nat String :=
  let codes := p.codes
  let code? (b : UInt8) : Option Nat := p.code? codes b.toNat
  match bytes.findIdx? fun b => (code? b).isNone with
  | some i => .error i
  | none => .ok (String.ofList (bytes.map fun b => Char.ofNat ((code? b).getD 0)))

/-- All code pages. -/
def all : List CodePage := [
  ⟨["cp037", "037", "csibm037", "ebcdic_cp_ca", "ebcdic_cp_nl", "ebcdic_cp_us", "ebcdic_cp_wt", "ibm037",
      "ibm039"], 0, [
    "0000000100020003009c00090086007f0097008d008e000b000c000d000e000f0010001100120013009d008500080087001800190092008f",
    "001c001d001e001f00800081008200830084000a0017001b00880089008a008b008c00050006000700900091001600930094009500960004",
    "00980099009a009b00140015009e001a002000a000e200e400e000e100e300e500e700f100a2002e003c0028002b007c002600e900ea00eb",
    "00e800ed00ee00ef00ec00df00210024002a0029003b00ac002d002f00c200c400c000c100c300c500c700d100a6002c0025005f003e003f",
    "00f800c900ca00cb00c800cd00ce00cf00cc0060003a002300400027003d002200d800610062006300640065006600670068006900ab00bb",
    "00f000fd00fe00b100b0006a006b006c006d006e006f00700071007200aa00ba00e600b800c600a400b5007e007300740075007600770078",
    "0079007a00a100bf00d000dd00de00ae005e00a300a500b700a900a700b600bc00bd00be005b005d00af00a800b400d7007b004100420043",
    "00440045004600470048004900ad00f400f600f200f300f5007d004a004b004c004d004e004f00500051005200b900fb00fc00f900fa00ff",
    "005c00f70053005400550056005700580059005a00b200d400d600d200d300d5003000310032003300340035003600370038003900b300db",
    "00dc00d900da009f"]⟩,
  ⟨["cp1006"], 128, [
    "0080008100820083008400850086008700880089008a008b008c008d008e008f0090009100920093009400950096009700980099009a009b",
    "009c009d009e009f00a006f006f106f206f306f406f506f606f706f806f9060c061b00ad061ffe81fe8dfe8efe8efe8ffe91fb56fb58fe93",
    "fe95fe97fb66fb68fe99fe9bfe9dfe9ffb7afb7cfea1fea3fea5fea7fea9fb84feabfeadfb8cfeaffb8afeb1feb3feb5feb7feb9febbfebd",
    "febffec1fec5fec9fecafecbfeccfecdfecefecffed0fed1fed3fed5fed7fed9fedbfb92fb94feddfedffee0fee1fee3fb9efee5fee7fe85",
    "feedfba6fba8fba9fbaafe80fe89fe8afe8bfef1fef2fef3fbb0fbaefe7cfe7d"]⟩,
  ⟨["cp1026", "1026", "csibm1026", "ibm1026"], 0, [
    "0000000100020003009c00090086007f0097008d008e000b000c000d000e000f0010001100120013009d008500080087001800190092008f",
    "001c001d001e001f00800081008200830084000a0017001b00880089008a008b008c00050006000700900091001600930094009500960004",
    "00980099009a009b00140015009e001a002000a000e200e400e000e100e300e5007b00f100c7002e003c0028002b0021002600e900ea00eb",
    "00e800ed00ee00ef00ec00df011e0130002a0029003b005e002d002f00c200c400c000c100c300c5005b00d1015f002c0025005f003e003f",
    "00f800c900ca00cb00c800cd00ce00cf00cc0131003a00d6015e0027003d00dc00d800610062006300640065006600670068006900ab00bb",
    "007d006000a600b100b0006a006b006c006d006e006f00700071007200aa00ba00e600b800c600a400b500f6007300740075007600770078",
    "0079007a00a100bf005d0024004000ae00a200a300a500b700a900a700b600bc00bd00be00ac007c00af00a800b400d700e7004100420043",
    "00440045004600470048004900ad00f4007e00f200f300f5011f004a004b004c004d004e004f00500051005200b900fb005c00f900fa00ff",
    "00fc00f70053005400550056005700580059005a00b200d4002300d200d300d5003000310032003300340035003600370038003900b300db",
    "002200d900da009f"]⟩,
  ⟨["cp1125", "1125", "cp866u", "ibm1125", "ruscii"], 128, [
    "0410041104120413041404150416041704180419041a041b041c041d041e041f0420042104220423042404250426042704280429042a042b",
    "042c042d042e042f0430043104320433043404350436043704380439043a043b043c043d043e043f25912592259325022524256125622556",
    "2555256325512557255d255c255b251025142534252c251c2500253c255e255f255a25542569256625602550256c25672568256425652559",
    "255825522553256b256a2518250c25882584258c259025800440044104420443044404450446044704480449044a044b044c044d044e044f",
    "040104510490049104040454040604560407045700b7221a211600a425a000a0"]⟩,
  ⟨["cp1140", "1140", "ibm1140"], 0, [
    "0000000100020003009c00090086007f0097008d008e000b000c000d000e000f0010001100120013009d008500080087001800190092008f",
    "001c001d001e001f00800081008200830084000a0017001b00880089008a008b008c00050006000700900091001600930094009500960004",
    "00980099009a009b00140015009e001a002000a000e200e400e000e100e300e500e700f100a2002e003c0028002b007c002600e900ea00eb",
    "00e800ed00ee00ef00ec00df00210024002a0029003b00ac002d002f00c200c400c000c100c300c500c700d100a6002c0025005f003e003f",
    "00f800c900ca00cb00c800cd00ce00cf00cc0060003a002300400027003d002200d800610062006300640065006600670068006900ab00bb",
    "00f000fd00fe00b100b0006a006b006c006d006e006f00700071007200aa00ba00e600b800c620ac00b5007e007300740075007600770078",
    "0079007a00a100bf00d000dd00de00ae005e00a300a500b700a900a700b600bc00bd00be005b005d00af00a800b400d7007b004100420043",
    "00440045004600470048004900ad00f400f600f200f300f5007d004a004b004c004d004e004f00500051005200b900fb00fc00f900fa00ff",
    "005c00f70053005400550056005700580059005a00b200d400d600d200d300d5003000310032003300340035003600370038003900b300db",
    "00dc00d900da009f"]⟩,
  ⟨["cp1250", "1250", "windows_1250"], 128, [
    "20acfffe201afffe201e202620202021fffe203001602039015a0164017d0179fffe20182019201c201d202220132014fffe21220161203a",
    "015b0165017e017a00a002c702d8014100a4010400a600a700a800a9015e00ab00ac00ad00ae017b00b000b102db014200b400b500b600b7",
    "00b80105015f00bb013d02dd013e017c015400c100c2010200c40139010600c7010c00c9011800cb011a00cd00ce010e01100143014700d3",
    "00d4015000d600d70158016e00da017000dc00dd016200df015500e100e2010300e4013a010700e7010d00e9011900eb011b00ed00ee010f",
    "01110144014800f300f4015100f600f70159016f00fa017100fc00fd016302d9"]⟩,
  ⟨["cp1251", "1251", "windows_1251"], 128, [
    "04020403201a0453201e20262020202120ac203004092039040a040c040b040f045220182019201c201d202220132014fffe21220459203a",
    "045a045c045b045f00a0040e045e040800a4049000a600a7040100a9040400ab00ac00ad00ae040700b000b104060456049100b500b600b7",
    "04512116045400bb04580405045504570410041104120413041404150416041704180419041a041b041c041d041e041f0420042104220423",
    "042404250426042704280429042a042b042c042d042e042f0430043104320433043404350436043704380439043a043b043c043d043e043f",
    "0440044104420443044404450446044704480449044a044b044c044d044e044f"]⟩,
  ⟨["cp1252", "1252", "windows_1252"], 128, [
    "20acfffe201a0192201e20262020202102c62030016020390152fffe017dfffefffe20182019201c201d20222013201402dc21220161203a",
    "0153fffe017e017800a000a100a200a300a400a500a600a700a800a900aa00ab00ac00ad00ae00af00b000b100b200b300b400b500b600b7",
    "00b800b900ba00bb00bc00bd00be00bf00c000c100c200c300c400c500c600c700c800c900ca00cb00cc00cd00ce00cf00d000d100d200d3",
    "00d400d500d600d700d800d900da00db00dc00dd00de00df00e000e100e200e300e400e500e600e700e800e900ea00eb00ec00ed00ee00ef",
    "00f000f100f200f300f400f500f600f700f800f900fa00fb00fc00fd00fe00ff"]⟩,
  ⟨["cp1253", "1253", "windows_1253"], 128, [
    "20acfffe201a0192201e202620202021fffe2030fffe2039fffefffefffefffefffe20182019201c201d202220132014fffe2122fffe203a",
    "fffefffefffefffe00a00385038600a300a400a500a600a700a800a9fffe00ab00ac00ad00ae201500b000b100b200b3038400b500b600b7",
    "03880389038a00bb038c00bd038e038f0390039103920393039403950396039703980399039a039b039c039d039e039f03a003a1fffe03a3",
    "03a403a503a603a703a803a903aa03ab03ac03ad03ae03af03b003b103b203b303b403b503b603b703b803b903ba03bb03bc03bd03be03bf",
    "03c003c103c203c303c403c503c603c703c803c903ca03cb03cc03cd03cefffe"]⟩,
  ⟨["cp1254", "1254", "windows_1254"], 128, [
    "20acfffe201a0192201e20262020202102c62030016020390152fffefffefffefffe20182019201c201d20222013201402dc21220161203a",
    "0153fffefffe017800a000a100a200a300a400a500a600a700a800a900aa00ab00ac00ad00ae00af00b000b100b200b300b400b500b600b7",
    "00b800b900ba00bb00bc00bd00be00bf00c000c100c200c300c400c500c600c700c800c900ca00cb00cc00cd00ce00cf011e00d100d200d3",
    "00d400d500d600d700d800d900da00db00dc0130015e00df00e000e100e200e300e400e500e600e700e800e900ea00eb00ec00ed00ee00ef",
    "011f00f100f200f300f400f500f600f700f800f900fa00fb00fc0131015f00ff"]⟩,
  ⟨["cp1255", "1255", "windows_1255"], 128, [
    "20acfffe201a0192201e20262020202102c62030fffe2039fffefffefffefffefffe20182019201c201d20222013201402dc2122fffe203a",
    "fffefffefffefffe00a000a100a200a320aa00a500a600a700a800a900d700ab00ac00ad00ae00af00b000b100b200b300b400b500b600b7",
    "00b800b900f700bb00bc00bd00be00bf05b005b105b205b305b405b505b605b705b805b9fffe05bb05bc05bd05be05bf05c005c105c205c3",
    "05f005f105f205f305f4fffefffefffefffefffefffefffe05d005d105d205d305d405d505d605d705d805d905da05db05dc05dd05de05df",
    "05e005e105e205e305e405e505e605e705e805e905eafffefffe200e200ffffe"]⟩,
  ⟨["cp1256", "1256", "windows_1256"], 128, [
    "20ac067e201a0192201e20262020202102c6203006792039015206860698068806af20182019201c201d20222013201406a921220691203a",
    "0153200c200d06ba00a0060c00a200a300a400a500a600a700a800a906be00ab00ac00ad00ae00af00b000b100b200b300b400b500b600b7",
    "00b800b9061b00bb00bc00bd00be061f06c1062106220623062406250626062706280629062a062b062c062d062e062f0630063106320633",
    "06340635063600d7063706380639063a064006410642064300e0064400e2064506460647064800e700e800e900ea00eb0649064a00ee00ef",
    "064b064c064d064e00f4064f065000f7065100f9065200fb00fc200e200f06d2"]⟩,
  ⟨["cp1257", "1257", "windows_1257"], 128, [
    "20acfffe201afffe201e202620202021fffe2030fffe2039fffe00a802c700b8fffe20182019201c201d202220132014fffe2122fffe203a",
    "fffe00af02dbfffe00a0fffe00a200a300a4fffe00a600a700d800a9015600ab00ac00ad00ae00c600b000b100b200b300b400b500b600b7",
    "00f800b9015700bb00bc00bd00be00e60104012e0100010600c400c501180112010c00c90179011601220136012a013b01600143014500d3",
    "014c00d500d600d701720141015a016a00dc017b017d00df0105012f0101010700e400e501190113010d00e9017a011701230137012b013c",
    "01610144014600f3014d00f500f600f701730142015b016b00fc017c017e02d9"]⟩,
  ⟨["cp1258", "1258", "windows_1258"], 128, [
    "20acfffe201a0192201e20262020202102c62030fffe20390152fffefffefffefffe20182019201c201d20222013201402dc2122fffe203a",
    "0153fffefffe017800a000a100a200a300a400a500a600a700a800a900aa00ab00ac00ad00ae00af00b000b100b200b300b400b500b600b7",
    "00b800b900ba00bb00bc00bd00be00bf00c000c100c2010200c400c500c600c700c800c900ca00cb030000cd00ce00cf011000d1030900d3",
    "00d401a000d600d700d800d900da00db00dc01af030300df00e000e100e2010300e400e500e600e700e800e900ea00eb030100ed00ee00ef",
    "011100f1032300f300f401a100f600f700f800f900fa00fb00fc01b020ab00ff"]⟩,
  ⟨["cp273", "273", "csibm273", "ibm273"], 0, [
    "0000000100020003009c00090086007f0097008d008e000b000c000d000e000f0010001100120013009d008500080087001800190092008f",
    "001c001d001e001f00800081008200830084000a0017001b00880089008a008b008c00050006000700900091001600930094009500960004",
    "00980099009a009b00140015009e001a002000a000e2007b00e000e100e300e500e700f100c4002e003c0028002b0021002600e900ea00eb",
    "00e800ed00ee00ef00ec007e00dc0024002a0029003b005e002d002f00c2005b00c000c100c300c500c700d100f6002c0025005f003e003f",
    "00f800c900ca00cb00c800cd00ce00cf00cc0060003a002300a70027003d002200d800610062006300640065006600670068006900ab00bb",
    "00f000fd00fe00b100b0006a006b006c006d006e006f00700071007200aa00ba00e600b800c600a400b500df007300740075007600770078",
    "0079007a00a100bf00d000dd00de00ae00a200a300a500b700a9004000b600bc00bd00be00ac007c203e00a800b400d700e4004100420043",
    "00440045004600470048004900ad00f400a600f200f300f500fc004a004b004c004d004e004f00500051005200b900fb007d00f900fa00ff",
    "00d600f70053005400550056005700580059005a00b200d4005c00d200d300d5003000310032003300340035003600370038003900b300db",
    "005d00d900da009f"]⟩,
  ⟨["cp424", "424", "csibm424", "ebcdic_cp_he", "ibm424"], 0, [
    "0000000100020003009c00090086007f0097008d008e000b000c000d000e000f0010001100120013009d008500080087001800190092008f",
    "001c001d001e001f00800081008200830084000a0017001b00880089008a008b008c00050006000700900091001600930094009500960004",
    "00980099009a009b00140015009e001a002005d005d105d205d305d405d505d605d705d800a2002e003c0028002b007c002605d905da05db",
    "05dc05dd05de05df05e005e100210024002a0029003b00ac002d002f05e205e305e405e505e605e705e805e900a6002c0025005f003e003f",
    "fffe05eafffefffe00a0fffefffefffe20170060003a002300400027003d0022fffe00610062006300640065006600670068006900ab00bb",
    "fffefffefffe00b100b0006a006b006c006d006e006f007000710072fffefffefffe00b8fffe00a400b5007e007300740075007600770078",
    "0079007afffefffefffefffefffe00ae005e00a300a500b700a900a700b600bc00bd00be005b005d00af00a800b400d7007b004100420043",
    "00440045004600470048004900adfffefffefffefffefffe007d004a004b004c004d004e004f00500051005200b9fffefffefffefffefffe",
    "005c00f70053005400550056005700580059005a00b2fffefffefffefffefffe003000310032003300340035003600370038003900b3fffe",
    "fffefffefffe009f"]⟩,
  ⟨["cp437", "437", "cspc8codepage437", "ibm437"], 128, [
    "00c700fc00e900e200e400e000e500e700ea00eb00e800ef00ee00ec00c400c500c900e600c600f400f600f200fb00f900ff00d600dc00a2",
    "00a300a520a7019200e100ed00f300fa00f100d100aa00ba00bf231000ac00bd00bc00a100ab00bb25912592259325022524256125622556",
    "2555256325512557255d255c255b251025142534252c251c2500253c255e255f255a25542569256625602550256c25672568256425652559",
    "255825522553256b256a2518250c25882584258c2590258003b100df039303c003a303c300b503c403a6039803a903b4221e03c603b52229",
    "226100b1226522642320232100f7224800b0221900b7221a207f00b225a000a0"]⟩,
  ⟨["cp500", "500", "csibm500", "ebcdic_cp_be", "ebcdic_cp_ch", "ibm500"], 0, [
    "0000000100020003009c00090086007f0097008d008e000b000c000d000e000f0010001100120013009d008500080087001800190092008f",
    "001c001d001e001f00800081008200830084000a0017001b00880089008a008b008c00050006000700900091001600930094009500960004",
    "00980099009a009b00140015009e001a002000a000e200e400e000e100e300e500e700f1005b002e003c0028002b0021002600e900ea00eb",
    "00e800ed00ee00ef00ec00df005d0024002a0029003b005e002d002f00c200c400c000c100c300c500c700d100a6002c0025005f003e003f",
    "00f800c900ca00cb00c800cd00ce00cf00cc0060003a002300400027003d002200d800610062006300640065006600670068006900ab00bb",
    "00f000fd00fe00b100b0006a006b006c006d006e006f00700071007200aa00ba00e600b800c600a400b5007e007300740075007600770078",
    "0079007a00a100bf00d000dd00de00ae00a200a300a500b700a900a700b600bc00bd00be00ac007c00af00a800b400d7007b004100420043",
    "00440045004600470048004900ad00f400f600f200f300f5007d004a004b004c004d004e004f00500051005200b900fb00fc00f900fa00ff",
    "005c00f70053005400550056005700580059005a00b200d400d600d200d300d5003000310032003300340035003600370038003900b300db",
    "00dc00d900da009f"]⟩,
  ⟨["cp720"], 128, [
    "0080008100e900e2008400e0008600e700ea00eb00e800ef00ee008d008e008f00900651065200f400a4064000fb00f90621062206230624",
    "00a306250626062706280629062a062b062c062d062e062f06300631063206330634063500ab00bb25912592259325022524256125622556",
    "2555256325512557255d255c255b251025142534252c251c2500253c255e255f255a25542569256625602550256c25672568256425652559",
    "255825522553256b256a2518250c25882584258c259025800636063706380639063a064100b506420643064406450646064706480649064a",
    "2261064b064c064d064e064f0650224800b0221900b7221a207f00b225a000a0"]⟩,
  ⟨["cp737"], 128, [
    "039103920393039403950396039703980399039a039b039c039d039e039f03a003a103a303a403a503a603a703a803a903b103b203b303b4",
    "03b503b603b703b803b903ba03bb03bc03bd03be03bf03c003c103c303c203c403c503c603c703c825912592259325022524256125622556",
    "2555256325512557255d255c255b251025142534252c251c2500253c255e255f255a25542569256625602550256c25672568256425652559",
    "255825522553256b256a2518250c25882584258c2590258003c903ac03ad03ae03ca03af03cc03cd03cb03ce038603880389038a038c038e",
    "038f00b12265226403aa03ab00f7224800b0221900b7221a207f00b225a000a0"]⟩,
  ⟨["cp775", "775", "cspc775baltic", "ibm775"], 128, [
    "010600fc00e9010100e4012300e501070142011301560157012b017900c400c500c900e600c6014d00f6012200a2015a015b00d600dc00f8",
    "00a300d800d700a40100012a00f3017b017c017a201d00a600a900ae00ac00bd00bc014100ab00bb259125922593250225240104010c0118",
    "0116256325512557255d012e0160251025142534252c251c2500253c0172016a255a25542569256625602550256c017d0105010d01190117",
    "012f01610173016b017e2518250c25882584258c2590258000d300df014c014300f500d500b5014401360137013b013c0146011201452019",
    "00ad00b1201c00be00b600a700f7201e00b0221900b700b900b300b225a000a0"]⟩,
  ⟨["cp850", "850", "cspc850multilingual", "ibm850"], 128, [
    "00c700fc00e900e200e400e000e500e700ea00eb00e800ef00ee00ec00c400c500c900e600c600f400f600f200fb00f900ff00d600dc00f8",
    "00a300d800d7019200e100ed00f300fa00f100d100aa00ba00bf00ae00ac00bd00bc00a100ab00bb2591259225932502252400c100c200c0",
    "00a9256325512557255d00a200a5251025142534252c251c2500253c00e300c3255a25542569256625602550256c00a400f000d000ca00cb",
    "00c8013100cd00ce00cf2518250c2588258400a600cc258000d300df00d400d200f500d500b500fe00de00da00db00d900fd00dd00af00b4",
    "00ad00b1201700be00b600a700f700b800b000a800b700b900b300b225a000a0"]⟩,
  ⟨["cp852", "852", "cspcp852", "ibm852"], 128, [
    "00c700fc00e900e200e4016f010700e7014200eb0150015100ee017900c4010600c90139013a00f400f6013d013e015a015b00d600dc0164",
    "0165014100d7010d00e100ed00f300fa01040105017d017e0118011900ac017a010c015f00ab00bb2591259225932502252400c100c2011a",
    "015e256325512557255d017b017c251025142534252c251c2500253c01020103255a25542569256625602550256c00a401110110010e00cb",
    "010f014700cd00ce011b2518250c258825840162016e258000d300df00d401430144014801600161015400da0155017000fd00dd016300b4",
    "00ad02dd02db02c702d800a700f700b800b000a802d901710158015925a000a0"]⟩,
  ⟨["cp855", "855", "csibm855", "ibm855"], 128, [
    "045204020453040304510401045404040455040504560406045704070458040804590409045a040a045b040b045c040c045e040e045f040f",
    "044e042e044a042a0430041004310411044604260434041404350415044404240433041300ab00bb25912592259325022524044504250438",
    "0418256325512557255d04390419251025142534252c251c2500253c043a041a255a25542569256625602550256c00a4043b041b043c041c",
    "043d041d043e041e043f2518250c25882584041f044f2580042f044004200441042104420422044304230436041604320412044c042c2116",
    "00ad044b042b0437041704480428044d042d044904290447042700a725a000a0"]⟩,
  ⟨["cp856"], 128, [
    "05d005d105d205d305d405d505d605d705d805d905da05db05dc05dd05de05df05e005e105e205e305e405e505e605e705e805e905eafffe",
    "00a3fffe00d7fffefffefffefffefffefffefffefffefffefffe00ae00ac00bd00bcfffe00ab00bb25912592259325022524fffefffefffe",
    "00a9256325512557255d00a200a5251025142534252c251c2500253cfffefffe255a25542569256625602550256c00a4fffefffefffefffe",
    "fffefffefffefffefffe2518250c2588258400a6fffe2580fffefffefffefffefffefffe00b5fffefffefffefffefffefffefffe00af00b4",
    "00ad00b1201700be00b600a700f700b800b000a800b700b900b300b225a000a0"]⟩,
  ⟨["cp857", "857", "csibm857", "ibm857"], 128, [
    "00c700fc00e900e200e400e000e500e700ea00eb00e800ef00ee013100c400c500c900e600c600f400f600f200fb00f9013000d600dc00f8",
    "00a300d8015e015f00e100ed00f300fa00f100d1011e011f00bf00ae00ac00bd00bc00a100ab00bb2591259225932502252400c100c200c0",
    "00a9256325512557255d00a200a5251025142534252c251c2500253c00e300c3255a25542569256625602550256c00a400ba00aa00ca00cb",
    "00c8fffe00cd00ce00cf2518250c2588258400a600cc258000d300df00d400d200f500d500b5fffe00d700da00db00d900ec00ff00af00b4",
    "00ad00b1fffe00be00b600a700f700b800b000a800b700b900b300b225a000a0"]⟩,
  ⟨["cp858", "858", "csibm858", "ibm858"], 128, [
    "00c700fc00e900e200e400e000e500e700ea00eb00e800ef00ee00ec00c400c500c900e600c600f400f600f200fb00f900ff00d600dc00f8",
    "00a300d800d7019200e100ed00f300fa00f100d100aa00ba00bf00ae00ac00bd00bc00a100ab00bb2591259225932502252400c100c200c0",
    "00a9256325512557255d00a200a5251025142534252c251c2500253c00e300c3255a25542569256625602550256c00a400f000d000ca00cb",
    "00c820ac00cd00ce00cf2518250c2588258400a600cc258000d300df00d400d200f500d500b500fe00de00da00db00d900fd00dd00af00b4",
    "00ad00b1201700be00b600a700f700b800b000a800b700b900b300b225a000a0"]⟩,
  ⟨["cp860", "860", "csibm860", "ibm860"], 128, [
    "00c700fc00e900e200e300e000c100e700ea00ca00e800cd00d400ec00c300c200c900c000c800f400f500f200da00f900cc00d500dc00a2",
    "00a300d920a700d300e100ed00f300fa00f100d100aa00ba00bf00d200ac00bd00bc00a100ab00bb25912592259325022524256125622556",
    "2555256325512557255d255c255b251025142534252c251c2500253c255e255f255a25542569256625602550256c25672568256425652559",
    "255825522553256b256a2518250c25882584258c2590258003b100df039303c003a303c300b503c403a6039803a903b4221e03c603b52229",
    "226100b1226522642320232100f7224800b0221900b7221a207f00b225a000a0"]⟩,
  ⟨["cp861", "861", "cp_is", "csibm861", "ibm861"], 128, [
    "00c700fc00e900e200e400e000e500e700ea00eb00e800d000f000de00c400c500c900e600c600f400f600fe00fb00dd00fd00d600dc00f8",
    "00a300d820a7019200e100ed00f300fa00c100cd00d300da00bf231000ac00bd00bc00a100ab00bb25912592259325022524256125622556",
    "2555256325512557255d255c255b251025142534252c251c2500253c255e255f255a25542569256625602550256c25672568256425652559",
    "255825522553256b256a2518250c25882584258c2590258003b100df039303c003a303c300b503c403a6039803a903b4221e03c603b52229",
    "226100b1226522642320232100f7224800b0221900b7221a207f00b225a000a0"]⟩,
  ⟨["cp862", "862", "cspc862latinhebrew", "ibm862"], 128, [
    "05d005d105d205d305d405d505d605d705d805d905da05db05dc05dd05de05df05e005e105e205e305e405e505e605e705e805e905ea00a2",
    "00a300a520a7019200e100ed00f300fa00f100d100aa00ba00bf231000ac00bd00bc00a100ab00bb25912592259325022524256125622556",
    "2555256325512557255d255c255b251025142534252c251c2500253c255e255f255a25542569256625602550256c25672568256425652559",
    "255825522553256b256a2518250c25882584258c2590258003b100df039303c003a303c300b503c403a6039803a903b4221e03c603b52229",
    "226100b1226522642320232100f7224800b0221900b7221a207f00b225a000a0"]⟩,
  ⟨["cp863", "863", "csibm863", "ibm863"], 128, [
    "00c700fc00e900e200c200e000b600e700ea00eb00e800ef00ee201700c000a700c900c800ca00f400cb00cf00fb00f900a400d400dc00a2",
    "00a300d900db019200a600b400f300fa00a800b800b300af00ce231000ac00bd00bc00be00ab00bb25912592259325022524256125622556",
    "2555256325512557255d255c255b251025142534252c251c2500253c255e255f255a25542569256625602550256c25672568256425652559",
    "255825522553256b256a2518250c25882584258c2590258003b100df039303c003a303c300b503c403a6039803a903b4221e03c603b52229",
    "226100b1226522642320232100f7224800b0221900b7221a207f00b225a000a0"]⟩,
  ⟨["cp864", "864", "csibm864", "ibm864"], 0, [
    "0000000100020003000400050006000700080009000a000b000c000d000e000f0010001100120013001400150016001700180019001a001b",
    "001c001d001e001f00200021002200230024066a0026002700280029002a002b002c002d002e002f00300031003200330034003500360037",
    "00380039003a003b003c003d003e003f0040004100420043004400450046004700480049004a004b004c004d004e004f0050005100520053",
    "005400550056005700580059005a005b005c005d005e005f0060006100620063006400650066006700680069006a006b006c006d006e006f",
    "0070007100720073007400750076007700780079007a007b007c007d007e007f00b000b72219221a259225002502253c2524252c251c2534",
    "2510250c2514251803b2221e03c600b100bd00bc224800ab00bbfef7fef8fffefffefefbfefcfffe00a000adfe8200a300a4fe84fffefffe",
    "fe8efe8ffe95fe99060cfe9dfea1fea50660066106620663066406650666066706680669fed1061bfeb1feb5feb9061f00a2fe80fe81fe83",
    "fe85fecafe8bfe8dfe91fe93fe97fe9bfe9ffea3fea7fea9feabfeadfeaffeb3feb7febbfebffec1fec5fecbfecf00a600ac00f700d7fec9",
    "0640fed3fed7fedbfedffee3fee7feebfeedfeeffef3febdfeccfecefecdfee1fe7d0651fee5fee9feecfef0fef2fed0fed5fef5fef6fedd",
    "fed9fef125a0fffe"]⟩,
  ⟨["cp865", "865", "csibm865", "ibm865"], 128, [
    "00c700fc00e900e200e400e000e500e700ea00eb00e800ef00ee00ec00c400c500c900e600c600f400f600f200fb00f900ff00d600dc00f8",
    "00a300d820a7019200e100ed00f300fa00f100d100aa00ba00bf231000ac00bd00bc00a100ab00a425912592259325022524256125622556",
    "2555256325512557255d255c255b251025142534252c251c2500253c255e255f255a25542569256625602550256c25672568256425652559",
    "255825522553256b256a2518250c25882584258c2590258003b100df039303c003a303c300b503c403a6039803a903b4221e03c603b52229",
    "226100b1226522642320232100f7224800b0221900b7221a207f00b225a000a0"]⟩,
  ⟨["cp866", "866", "csibm866", "ibm866"], 128, [
    "0410041104120413041404150416041704180419041a041b041c041d041e041f0420042104220423042404250426042704280429042a042b",
    "042c042d042e042f0430043104320433043404350436043704380439043a043b043c043d043e043f25912592259325022524256125622556",
    "2555256325512557255d255c255b251025142534252c251c2500253c255e255f255a25542569256625602550256c25672568256425652559",
    "255825522553256b256a2518250c25882584258c259025800440044104420443044404450446044704480449044a044b044c044d044e044f",
    "040104510404045404070457040e045e00b0221900b7221a211600a425a000a0"]⟩,
  ⟨["cp869", "869", "cp_gr", "csibm869", "ibm869"], 128, [
    "fffefffefffefffefffefffe0386fffe00b700ac00a620182019038820150389038a03aa038cfffefffe038e03ab00a9038f00b200b303ac",
    "00a303ad03ae03af03ca039003cc03cd039103920393039403950396039700bd0398039900ab00bb25912592259325022524039a039b039c",
    "039d256325512557255d039e039f251025142534252c251c2500253c03a003a1255a25542569256625602550256c03a303a403a503a603a7",
    "03a803a903b103b203b32518250c2588258403b403b5258003b603b703b803b903ba03bb03bc03bd03be03bf03c003c103c303c203c40384",
    "00ad00b103c503c603c700a703c8038500b000a803c903cb03b003ce25a000a0"]⟩,
  ⟨["cp874"], 128, [
    "20acfffefffefffefffe2026fffefffefffefffefffefffefffefffefffefffefffe20182019201c201d202220132014fffefffefffefffe",
    "fffefffefffefffe00a00e010e020e030e040e050e060e070e080e090e0a0e0b0e0c0e0d0e0e0e0f0e100e110e120e130e140e150e160e17",
    "0e180e190e1a0e1b0e1c0e1d0e1e0e1f0e200e210e220e230e240e250e260e270e280e290e2a0e2b0e2c0e2d0e2e0e2f0e300e310e320e33",
    "0e340e350e360e370e380e390e3afffefffefffefffe0e3f0e400e410e420e430e440e450e460e470e480e490e4a0e4b0e4c0e4d0e4e0e4f",
    "0e500e510e520e530e540e550e560e570e580e590e5a0e5bfffefffefffefffe"]⟩,
  ⟨["cp875"], 0, [
    "0000000100020003009c00090086007f0097008d008e000b000c000d000e000f0010001100120013009d008500080087001800190092008f",
    "001c001d001e001f00800081008200830084000a0017001b00880089008a008b008c00050006000700900091001600930094009500960004",
    "00980099009a009b00140015009e001a0020039103920393039403950396039703980399005b002e003c0028002b00210026039a039b039c",
    "039d039e039f03a003a103a3005d0024002a0029003b005e002d002f03a403a503a603a703a803a903aa03ab007c002c0025005f003e003f",
    "00a803860388038900a0038a038c038e038f0060003a002300400027003d0022038500610062006300640065006600670068006903b103b2",
    "03b303b403b503b600b0006a006b006c006d006e006f00700071007203b703b803b903ba03bb03bc00b4007e007300740075007600770078",
    "0079007a03bd03be03bf03c003c103c300a303ac03ad03ae03ca03af03cc03cd03cb03ce03c203c403c503c603c703c8007b004100420043",
    "00440045004600470048004900ad03c9039003b020182015007d004a004b004c004d004e004f00500051005200b100bd001a0387201900a6",
    "005c001a0053005400550056005700580059005a00b200a7001a001a00ab00ac003000310032003300340035003600370038003900b300a9",
    "001a001a00bb009f"]⟩,
  ⟨["hp_roman8", "cp1051", "csHPRoman8", "ibm1051", "r8", "roman8"], 128, [
    "0080008100820083008400850086008700880089008a008b008c008d008e008f0090009100920093009400950096009700980099009a009b",
    "009c009d009e009f00a000c000c200c800ca00cb00ce00cf00b402cb02c600a802dc00d900db20a400af00dd00fd00b000c700e700d100f1",
    "00a100bf00a400a300a500a7019200a200e200ea00f400fb00e100e900f300fa00e000e800f200f900e400eb00f600fc00c500ee00d800c6",
    "00e500ed00f800e600c400ec00d600dc00c900ef00df00d400c100c300e300d000f000cd00cc00d300d200d500f50160016100da017800ff",
    "00de00fe00b700b500b600be201400bc00bd00aa00ba00ab25a000bb00b1fffe"]⟩,
  ⟨["iso8859_10", "csisolatin6", "iso_8859_10", "iso_8859_10_1992", "iso_ir_157", "l6", "latin6"], 128, [
    "0080008100820083008400850086008700880089008a008b008c008d008e008f0090009100920093009400950096009700980099009a009b",
    "009c009d009e009f00a0010401120122012a0128013600a7013b011001600166017d00ad016a014a00b0010501130123012b0129013700b7",
    "013c011101610167017e2015016b014b010000c100c200c300c400c500c6012e010c00c9011800cb011600cd00ce00cf00d00145014c00d3",
    "00d400d500d6016800d8017200da00db00dc00dd00de00df010100e100e200e300e400e500e6012f010d00e9011900eb011700ed00ee00ef",
    "00f00146014d00f300f400f500f6016900f8017300fa00fb00fc00fd00fe0138"]⟩,
  ⟨["iso8859_11", "iso_8859_11", "iso_8859_11_2001", "thai"], 128, [
    "0080008100820083008400850086008700880089008a008b008c008d008e008f0090009100920093009400950096009700980099009a009b",
    "009c009d009e009f00a00e010e020e030e040e050e060e070e080e090e0a0e0b0e0c0e0d0e0e0e0f0e100e110e120e130e140e150e160e17",
    "0e180e190e1a0e1b0e1c0e1d0e1e0e1f0e200e210e220e230e240e250e260e270e280e290e2a0e2b0e2c0e2d0e2e0e2f0e300e310e320e33",
    "0e340e350e360e370e380e390e3afffefffefffefffe0e3f0e400e410e420e430e440e450e460e470e480e490e4a0e4b0e4c0e4d0e4e0e4f",
    "0e500e510e520e530e540e550e560e570e580e590e5a0e5bfffefffefffefffe"]⟩,
  ⟨["iso8859_13", "iso_8859_13", "l7", "latin7"], 128, [
    "0080008100820083008400850086008700880089008a008b008c008d008e008f0090009100920093009400950096009700980099009a009b",
    "009c009d009e009f00a0201d00a200a300a4201e00a600a700d800a9015600ab00ac00ad00ae00c600b000b100b200b3201c00b500b600b7",
    "00f800b9015700bb00bc00bd00be00e60104012e0100010600c400c501180112010c00c90179011601220136012a013b01600143014500d3",
    "014c00d500d600d701720141015a016a00dc017b017d00df0105012f0101010700e400e501190113010d00e9017a011701230137012b013c",
    "01610144014600f3014d00f500f600f701730142015b016b00fc017c017e2019"]⟩,
  ⟨["iso8859_14", "iso_8859_14", "iso_8859_14_1998", "iso_celtic", "iso_ir_199", "l8", "latin8"], 128, [
    "0080008100820083008400850086008700880089008a008b008c008d008e008f0090009100920093009400950096009700980099009a009b",
    "009c009d009e009f00a01e021e0300a3010a010b1e0a00a71e8000a91e821e0b1ef200ad00ae01781e1e1e1f012001211e401e4100b61e56",
    "1e811e571e831e601ef31e841e851e6100c000c100c200c300c400c500c600c700c800c900ca00cb00cc00cd00ce00cf017400d100d200d3",
    "00d400d500d61e6a00d800d900da00db00dc00dd017600df00e000e100e200e300e400e500e600e700e800e900ea00eb00ec00ed00ee00ef",
    "017500f100f200f300f400f500f61e6b00f800f900fa00fb00fc00fd017700ff"]⟩,
  ⟨["iso8859_15", "iso_8859_15", "l9", "latin9"], 128, [
    "0080008100820083008400850086008700880089008a008b008c008d008e008f0090009100920093009400950096009700980099009a009b",
    "009c009d009e009f00a000a100a200a320ac00a5016000a7016100a900aa00ab00ac00ad00ae00af00b000b100b200b3017d00b500b600b7",
    "017e00b900ba00bb01520153017800bf00c000c100c200c300c400c500c600c700c800c900ca00cb00cc00cd00ce00cf00d000d100d200d3",
    "00d400d500d600d700d800d900da00db00dc00dd00de00df00e000e100e200e300e400e500e600e700e800e900ea00eb00ec00ed00ee00ef",
    "00f000f100f200f300f400f500f600f700f800f900fa00fb00fc00fd00fe00ff"]⟩,
  ⟨["iso8859_16", "iso_8859_16", "iso_8859_16_2001", "iso_ir_226", "l10", "latin10"], 128, [
    "0080008100820083008400850086008700880089008a008b008c008d008e008f0090009100920093009400950096009700980099009a009b",
    "009c009d009e009f00a001040105014120ac201e016000a7016100a9021800ab017900ad017a017b00b000b1010c0142017d201d00b600b7",
    "017e010d021900bb015201530178017c00c000c100c2010200c4010600c600c700c800c900ca00cb00cc00cd00ce00cf0110014300d200d3",
    "00d4015000d6015a017000d900da00db00dc0118021a00df00e000e100e2010300e4010700e600e700e800e900ea00eb00ec00ed00ee00ef",
    "0111014400f200f300f4015100f6015b017100f900fa00fb00fc0119021b00ff"]⟩,
  ⟨["iso8859_2", "csisolatin2", "iso_8859_2", "iso_8859_2_1987", "iso_ir_101", "l2", "latin2"], 128, [
    "0080008100820083008400850086008700880089008a008b008c008d008e008f0090009100920093009400950096009700980099009a009b",
    "009c009d009e009f00a0010402d8014100a4013d015a00a700a80160015e0164017900ad017d017b00b0010502db014200b4013e015b02c7",
    "00b80161015f0165017a02dd017e017c015400c100c2010200c40139010600c7010c00c9011800cb011a00cd00ce010e01100143014700d3",
    "00d4015000d600d70158016e00da017000dc00dd016200df015500e100e2010300e4013a010700e7010d00e9011900eb011b00ed00ee010f",
    "01110144014800f300f4015100f600f70159016f00fa017100fc00fd016302d9"]⟩,
  ⟨["iso8859_3", "csisolatin3", "iso_8859_3", "iso_8859_3_1988", "iso_ir_109", "l3", "latin3"], 128, [
    "0080008100820083008400850086008700880089008a008b008c008d008e008f0090009100920093009400950096009700980099009a009b",
    "009c009d009e009f00a0012602d800a300a4fffe012400a700a80130015e011e013400adfffe017b00b0012700b200b300b400b5012500b7",
    "00b80131015f011f013500bdfffe017c00c000c100c2fffe00c4010a010800c700c800c900ca00cb00cc00cd00ce00cffffe00d100d200d3",
    "00d4012000d600d7011c00d900da00db00dc016c015c00df00e000e100e2fffe00e4010b010900e700e800e900ea00eb00ec00ed00ee00ef",
    "fffe00f100f200f300f4012100f600f7011d00f900fa00fb00fc016d015d02d9"]⟩,
  ⟨["iso8859_4", "csisolatin4", "iso_8859_4", "iso_8859_4_1988", "iso_ir_110", "l4", "latin4"], 128, [
    "0080008100820083008400850086008700880089008a008b008c008d008e008f0090009100920093009400950096009700980099009a009b",
    "009c009d009e009f00a001040138015600a40128013b00a700a8016001120122016600ad017d00af00b0010502db015700b40129013c02c7",
    "00b80161011301230167014a017e014b010000c100c200c300c400c500c6012e010c00c9011800cb011600cd00ce012a01100145014c0136",
    "00d400d500d600d700d8017200da00db00dc0168016a00df010100e100e200e300e400e500e6012f010d00e9011900eb011700ed00ee012b",
    "01110146014d013700f400f500f600f700f8017300fa00fb00fc0169016b02d9"]⟩,
  ⟨["iso8859_5", "csisolatincyrillic", "cyrillic", "iso_8859_5", "iso_8859_5_1988", "iso_ir_144"], 128, [
    "0080008100820083008400850086008700880089008a008b008c008d008e008f0090009100920093009400950096009700980099009a009b",
    "009c009d009e009f00a0040104020403040404050406040704080409040a040b040c00ad040e040f04100411041204130414041504160417",
    "04180419041a041b041c041d041e041f0420042104220423042404250426042704280429042a042b042c042d042e042f0430043104320433",
    "043404350436043704380439043a043b043c043d043e043f0440044104420443044404450446044704480449044a044b044c044d044e044f",
    "2116045104520453045404550456045704580459045a045b045c00a7045e045f"]⟩,
  ⟨["iso8859_6", "arabic", "asmo_708", "csisolatinarabic", "ecma_114", "iso_8859_6", "iso_8859_6_1987",
    "iso_ir_127"], 128, [
    "0080008100820083008400850086008700880089008a008b008c008d008e008f0090009100920093009400950096009700980099009a009b",
    "009c009d009e009f00a0fffefffefffe00a4fffefffefffefffefffefffefffe060c00adfffefffefffefffefffefffefffefffefffefffe",
    "fffefffefffe061bfffefffefffe061ffffe062106220623062406250626062706280629062a062b062c062d062e062f0630063106320633",
    "063406350636063706380639063afffefffefffefffefffe0640064106420643064406450646064706480649064a064b064c064d064e064f",
    "065006510652fffefffefffefffefffefffefffefffefffefffefffefffefffe"]⟩,
  ⟨["iso8859_7", "csisolatingreek", "ecma_118", "elot_928", "greek", "greek8", "iso_8859_7", "iso_8859_7_1987",
    "iso_ir_126"], 128, [
    "0080008100820083008400850086008700880089008a008b008c008d008e008f0090009100920093009400950096009700980099009a009b",
    "009c009d009e009f00a02018201900a320ac20af00a600a700a800a9037a00ab00ac00adfffe201500b000b100b200b303840385038600b7",
    "03880389038a00bb038c00bd038e038f0390039103920393039403950396039703980399039a039b039c039d039e039f03a003a1fffe03a3",
    "03a403a503a603a703a803a903aa03ab03ac03ad03ae03af03b003b103b203b303b403b503b603b703b803b903ba03bb03bc03bd03be03bf",
    "03c003c103c203c303c403c503c603c703c803c903ca03cb03cc03cd03cefffe"]⟩,
  ⟨["iso8859_8", "csisolatinhebrew", "hebrew", "iso_8859_8", "iso_8859_8_1988", "iso_ir_138"], 128, [
    "0080008100820083008400850086008700880089008a008b008c008d008e008f0090009100920093009400950096009700980099009a009b",
    "009c009d009e009f00a0fffe00a200a300a400a500a600a700a800a900d700ab00ac00ad00ae00af00b000b100b200b300b400b500b600b7",
    "00b800b900f700bb00bc00bd00befffefffefffefffefffefffefffefffefffefffefffefffefffefffefffefffefffefffefffefffefffe",
    "fffefffefffefffefffefffefffefffefffefffefffe201705d005d105d205d305d405d505d605d705d805d905da05db05dc05dd05de05df",
    "05e005e105e205e305e405e505e605e705e805e905eafffefffe200e200ffffe"]⟩,
  ⟨["iso8859_9", "csisolatin5", "iso_8859_9", "iso_8859_9_1989", "iso_ir_148", "l5", "latin5"], 128, [
    "0080008100820083008400850086008700880089008a008b008c008d008e008f0090009100920093009400950096009700980099009a009b",
    "009c009d009e009f00a000a100a200a300a400a500a600a700a800a900aa00ab00ac00ad00ae00af00b000b100b200b300b400b500b600b7",
    "00b800b900ba00bb00bc00bd00be00bf00c000c100c200c300c400c500c600c700c800c900ca00cb00cc00cd00ce00cf011e00d100d200d3",
    "00d400d500d600d700d800d900da00db00dc0130015e00df00e000e100e200e300e400e500e600e700e800e900ea00eb00ec00ed00ee00ef",
    "011f00f100f200f300f400f500f600f700f800f900fa00fb00fc0131015f00ff"]⟩,
  ⟨["koi8_r", "cskoi8r"], 128, [
    "25002502250c251025142518251c2524252c2534253c258025842588258c2590259125922593232025a02219221a22482264226500a02321",
    "00b000b200b700f725502551255204512553255425552556255725582559255a255b255c255d255e255f2560256104012562256325642565",
    "2566256725682569256a256b256c00a9044e0430043104460434043504440433044504380439043a043b043c043d043e043f044f04400441",
    "0442044304360432044c044b04370448044d04490447044a042e0410041104260414041504240413042504180419041a041b041c041d041e",
    "041f042f042004210422042304160412042c042b04170428042d04290427042a"]⟩,
  ⟨["koi8_t"], 128, [
    "049b0493201a0492201e202620202021fffe203004b3203904b204b704b6fffe049a20182019201c201d202220132014fffe2122fffe203a",
    "fffefffefffefffefffe04ef04ee045100a404e300a600a7fffefffefffe00ab00ac00ad00aefffe00b000b100b20401fffe04e200b600b7",
    "fffe2116fffe00bbfffefffefffe00a9044e0430043104460434043504440433044504380439043a043b043c043d043e043f044f04400441",
    "0442044304360432044c044b04370448044d04490447044a042e0410041104260414041504240413042504180419041a041b041c041d041e",
    "041f042f042004210422042304160412042c042b04170428042d04290427042a"]⟩,
  ⟨["koi8_u"], 128, [
    "25002502250c251025142518251c2524252c2534253c258025842588258c2590259125922593232025a02219221a22482264226500a02321",
    "00b000b200b700f725502551255204510454255404560457255725582559255a255b0491255d255e255f2560256104010404256304060407",
    "2566256725682569256a0490256c00a9044e0430043104460434043504440433044504380439043a043b043c043d043e043f044f04400441",
    "0442044304360432044c044b04370448044d04490447044a042e0410041104260414041504240413042504180419041a041b041c041d041e",
    "041f042f042004210422042304160412042c042b04170428042d04290427042a"]⟩,
  ⟨["kz1048", "kz_1048", "rk1048", "strk1048_2002"], 128, [
    "04020403201a0453201e20262020202120ac203004092039040a049a04ba040f045220182019201c201d202220132014fffe21220459203a",
    "045a049b04bb045f00a004b004b104d800a404e800a600a7040100a9049200ab00ac00ad00ae04ae00b000b10406045604e900b500b600b7",
    "04512116049300bb04d904a204a304af0410041104120413041404150416041704180419041a041b041c041d041e041f0420042104220423",
    "042404250426042704280429042a042b042c042d042e042f0430043104320433043404350436043704380439043a043b043c043d043e043f",
    "0440044104420443044404450446044704480449044a044b044c044d044e044f"]⟩,
  ⟨["mac_arabic"], 128, [
    "00c400a000c700c900d100d600dc00e100e000e200e406ba00ab00e700e900e800ea00eb00ed202600ee00ef00f100f300bb00f400f600f7",
    "00fa00f900fb00fc00200021002200230024066a0026002700280029002a002b060c002d002e002f06600661066206630664066506660667",
    "06680669003a061b003c003d003e061f274a062106220623062406250626062706280629062a062b062c062d062e062f0630063106320633",
    "063406350636063706380639063a005b005c005d005e005f0640064106420643064406450646064706480649064a064b064c064d064e064f",
    "065006510652067e0679068606d506a406af06880691007b007c007d069806d2"]⟩,
  ⟨["mac_croatian"], 128, [
    "00c400c500c700c900d100d600dc00e100e000e200e400e300e500e700e900e800ea00eb00ed00ec00ee00ef00f100f300f200f400f600f5",
    "00fa00f900fb00fc202000b000a200a300a7202200b600df00ae0160212200b400a82260017d00d8221e00b122642265220600b522022211",
    "220f0161222b00aa00ba03a9017e00f800bf00a100ac221a01922248010600ab010c202600a000c000c300d50152015301102014201c201d",
    "2018201900f725caf8ff00a9204420ac2039203a00c600bb201300b7201a201e203000c2010700c1010d00c800cd00ce00cf00cc00d300d4",
    "011100d200da00db00d9013102c602dc00af03c000cb02da00b800ca00e602c7"]⟩,
  ⟨["mac_cyrillic", "maccyrillic"], 128, [
    "0410041104120413041404150416041704180419041a041b041c041d041e041f0420042104220423042404250426042704280429042a042b",
    "042c042d042e042f202000b0049000a300a7202200b6040600ae00a9212204020452226004030453221e00b122642265045600b504910408",
    "040404540407045704090459040a045a0458040500ac221a01922248220600ab00bb202600a0040b045b040c045c045520132014201c201d",
    "2018201900f7201e040e045e040f045f211604010451044f0430043104320433043404350436043704380439043a043b043c043d043e043f",
    "0440044104420443044404450446044704480449044a044b044c044d044e20ac"]⟩,
  ⟨["mac_farsi"], 128, [
    "00c400a000c700c900d100d600dc00e100e000e200e406ba00ab00e700e900e800ea00eb00ed202600ee00ef00f100f300bb00f400f600f7",
    "00fa00f900fb00fc00200021002200230024066a0026002700280029002a002b060c002d002e002f06f006f106f206f306f406f506f606f7",
    "06f806f9003a061b003c003d003e061f274a062106220623062406250626062706280629062a062b062c062d062e062f0630063106320633",
    "063406350636063706380639063a005b005c005d005e005f0640064106420643064406450646064706480649064a064b064c064d064e064f",
    "065006510652067e0679068606d506a406af06880691007b007c007d069806d2"]⟩,
  ⟨["mac_greek", "macgreek"], 128, [
    "00c400b900b200c900b300d600dc038500e000e200e4038400a800e700e900e800ea00eb00a3212200ee00ef202200bd203000f400f600a6",
    "20ac00f900fb00fc2020039303940398039b039e03a000df00ae00a903a303aa00a7226000b000b7039100b12264226500a5039203950396",
    "03970399039a039c03a603ab03a803a903ac039d00ac039f03a1224803a400ab00bb202600a003a503a703860388015320132015201c201d",
    "2018201900f70389038a038c038e03ad03ae03af03cc038f03cd03b103b203c803b403b503c603b303b703b903be03ba03bb03bc03bd03bf",
    "03c003ce03c103c303c403b803c903c203c703c503b603ca03cb039003b000ad"]⟩,
  ⟨["mac_iceland", "maciceland"], 128, [
    "00c400c500c700c900d100d600dc00e100e000e200e400e300e500e700e900e800ea00eb00ed00ec00ee00ef00f100f300f200f400f600f5",
    "00fa00f900fb00fc00dd00b000a200a300a7202200b600df00ae00a9212200b400a8226000c600d8221e00b12264226500a500b522022211",
    "220f03c0222b00aa00ba03a900e600f800bf00a100ac221a01922248220600ab00bb202600a000c000c300d50152015320132014201c201d",
    "2018201900f725ca00ff0178204420ac00d000f000de00fe00fd00b7201a201e203000c200ca00c100cb00c800cd00ce00cf00cc00d300d4",
    "f8ff00d200da00db00d9013102c602dc00af02d802d902da00b802dd02db02c7"]⟩,
  ⟨["mac_latin2", "mac_centeuro", "maccentraleurope", "maclatin2"], 128, [
    "00c40100010100c9010400d600dc00e10105010c00e4010d0106010700e90179017a010e00ed010f01120113011600f3011700f400f600f5",
    "00fa011a011b00fc202000b0011800a300a7202200b600df00ae00a92122011900a822600123012e012f012a22642265012b013622022211",
    "0142013b013c013d013e0139013a01450146014300ac221a01440147220600ab00bb202600a00148015000d50151014c20132014201c201d",
    "2018201900f725ca014d0154015501582039203a0159015601570160201a201e0161015a015b00c10164016500cd017d017e016a00d300d4",
    "016b016e00da016f017001710172017300dd00fd0137017b0141017c012202c7"]⟩,
  ⟨["mac_roman", "macintosh", "macroman"], 128, [
    "00c400c500c700c900d100d600dc00e100e000e200e400e300e500e700e900e800ea00eb00ed00ec00ee00ef00f100f300f200f400f600f5",
    "00fa00f900fb00fc202000b000a200a300a7202200b600df00ae00a9212200b400a8226000c600d8221e00b12264226500a500b522022211",
    "220f03c0222b00aa00ba03a900e600f800bf00a100ac221a01922248220600ab00bb202600a000c000c300d50152015320132014201c201d",
    "2018201900f725ca00ff0178204420ac2039203afb01fb02202100b7201a201e203000c200ca00c100cb00c800cd00ce00cf00cc00d300d4",
    "f8ff00d200da00db00d9013102c602dc00af02d802d902da00b802dd02db02c7"]⟩,
  ⟨["mac_romanian"], 128, [
    "00c400c500c700c900d100d600dc00e100e000e200e400e300e500e700e900e800ea00eb00ed00ec00ee00ef00f100f300f200f400f600f5",
    "00fa00f900fb00fc202000b000a200a300a7202200b600df00ae00a9212200b400a8226001020218221e00b12264226500a500b522022211",
    "220f03c0222b00aa00ba03a90103021900bf00a100ac221a01922248220600ab00bb202600a000c000c300d50152015320132014201c201d",
    "2018201900f725ca00ff0178204420ac2039203a021a021b202100b7201a201e203000c200ca00c100cb00c800cd00ce00cf00cc00d300d4",
    "f8ff00d200da00db00d9013102c602dc00af02d802d902da00b802dd02db02c7"]⟩,
  ⟨["mac_turkish", "macturkish"], 128, [
    "00c400c500c700c900d100d600dc00e100e000e200e400e300e500e700e900e800ea00eb00ed00ec00ee00ef00f100f300f200f400f600f5",
    "00fa00f900fb00fc202000b000a200a300a7202200b600df00ae00a9212200b400a8226000c600d8221e00b12264226500a500b522022211",
    "220f03c0222b00aa00ba03a900e600f800bf00a100ac221a01922248220600ab00bb202600a000c000c300d50152015320132014201c201d",
    "2018201900f725ca00ff0178011e011f01300131015e015f202100b7201a201e203000c200ca00c100cb00c800cd00ce00cf00cc00d300d4",
    "f8ff00d200da00db00d9f8a002c602dc00af02d802d902da00b802dd02db02c7"]⟩,
  ⟨["palmos"], 128, [
    "20ac0081201a0192201e20262020202102c62030016020390152266626632665266020182019201c201d20222013201402dc21220161009b",
    "0153009d009e017800a000a100a200a300a400a500a600a700a800a900aa00ab00ac00ad00ae00af00b000b100b200b300b400b500b600b7",
    "00b800b900ba00bb00bc00bd00be00bf00c000c100c200c300c400c500c600c700c800c900ca00cb00cc00cd00ce00cf00d000d100d200d3",
    "00d400d500d600d700d800d900da00db00dc00dd00de00df00e000e100e200e300e400e500e600e700e800e900ea00eb00ec00ed00ee00ef",
    "00f000f100f200f300f400f500f600f700f800f900fa00fb00fc00fd00fe00ff"]⟩,
  ⟨["ptcp154", "cp154", "csptcp154", "cyrillic_asian", "pt154"], 128, [
    "0496049204ee0493201e202604b604ae04b204af04a004e204a2049a04ba04b8049720182019201c201d20222013201404b304b704a104e3",
    "04a3049b04bb04b900a0040e045e040804e8049804b000a7040100a904d800ab00ac04ef00ae049c00b004b104060456049904e900b600b7",
    "0451211604d900bb045804aa04ab049d0410041104120413041404150416041704180419041a041b041c041d041e041f0420042104220423",
    "042404250426042704280429042a042b042c042d042e042f0430043104320433043404350436043704380439043a043b043c043d043e043f",
    "0440044104420443044404450446044704480449044a044b044c044d044e044f"]⟩,
  ⟨["tis_620", "iso_ir_166", "tis620", "tis_620_0", "tis_620_2529_0", "tis_620_2529_1"], 128, [
    "0080008100820083008400850086008700880089008a008b008c008d008e008f0090009100920093009400950096009700980099009a009b",
    "009c009d009e009ffffe0e010e020e030e040e050e060e070e080e090e0a0e0b0e0c0e0d0e0e0e0f0e100e110e120e130e140e150e160e17",
    "0e180e190e1a0e1b0e1c0e1d0e1e0e1f0e200e210e220e230e240e250e260e270e280e290e2a0e2b0e2c0e2d0e2e0e2f0e300e310e320e33",
    "0e340e350e360e370e380e390e3afffefffefffefffe0e3f0e400e410e420e430e440e450e460e470e480e490e4a0e4b0e4c0e4d0e4e0e4f",
    "0e500e510e520e530e540e550e560e570e580e590e5a0e5bfffefffefffefffe"]⟩]

end CodePage

end ActivityLog.Text
