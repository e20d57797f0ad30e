/-!
# Composite characters

Characters that mean the same as two others, a base and what is added to it, and
that are written in their place. `compose?` and `split?` read one table in both
directions.
-/

namespace HardwareIndex.Text

/-- For the code point of what is added: bases, and at the same places the composites. -/
def composites : Array (Nat × String × String) := #[
  (0x0300, "AEINOUWYaeinouwy¨ÂÊÔ", "ÀÈÌǸÒÙẀỲàèìǹòùẁỳ῭ẦỀỒ"),
  (0x0300, "ÜâêôüĂăĒēŌōƠơƯưΑΕΗΙΟ", "ǛầềồǜẰằḔḕṐṑỜờỪừᾺῈῊῚῸ"),
  (0x0300, "ΥΩαεηιουωϊϋЕИеиἀἁἈἉἐ", "ῪῺὰὲὴὶὸὺὼῒῢЀЍѐѝἂἃἊἋἒ"),
  (0x0300, "ἑἘἙἠἡἨἩἰἱἸἹὀὁὈὉὐὑὙὠὡ", "ἓἚἛἢἣἪἫἲἳἺἻὂὃὊὋὒὓὛὢὣ"),
  (0x0300, "ὨὩ᾿῾", "ὪὫ῍῝"),
  (0x0301, "ACEGIKLMNOPRSUWYZace", "ÁĆÉǴÍḰĹḾŃÓṔŔŚÚẂÝŹáćé"),
  (0x0301, "giklmnoprsuwyz¨ÂÅÆÇÊ", "ǵíḱĺḿńóṕŕśúẃýź΅ẤǺǼḈẾ"),
  (0x0301, "ÏÔÕØÜâåæçêïôõøüĂăĒēŌ", "ḮỐṌǾǗấǻǽḉếḯốṍǿǘẮắḖḗṒ"),
  (0x0301, "ōŨũƠơƯưΑΕΗΙΟΥΩαεηιου", "ṓṸṹỚớỨứΆΈΉΊΌΎΏάέήίόύ"),
  (0x0301, "ωϊϋϒГКгкἀἁἈἉἐἑἘἙἠἡἨἩ", "ώΐΰϓЃЌѓќἄἅἌἍἔἕἜἝἤἥἬἭ"),
  (0x0301, "ἰἱἸἹὀὁὈὉὐὑὙὠὡὨὩ᾿῾", "ἴἵἼἽὄὅὌὍὔὕὝὤὥὬὭ῎῞"),
  (0x0302, "ACEGHIJOSUWYZaceghij", "ÂĈÊĜĤÎĴÔŜÛŴŶẐâĉêĝĥîĵ"),
  (0x0302, "osuwyzẠạẸẹỌọ", "ôŝûŵŷẑẬậỆệỘộ"),
  (0x0303, "AEINOUVYaeinouvyÂÊÔâ", "ÃẼĨÑÕŨṼỸãẽĩñõũṽỹẪỄỖẫ"),
  (0x0303, "êôĂăƠơƯư", "ễỗẴẵỠỡỮữ"),
  (0x0304, "AEGIOUYaegiouyÄÆÕÖÜä", "ĀĒḠĪŌŪȲāēḡīōūȳǞǢȬȪǕǟ"),
  (0x0304, "æõöüǪǫȦȧȮȯΑΙΥαιυИУиу", "ǣȭȫǖǬǭǠǡȰȱᾹῙῩᾱῑῡӢӮӣӯ"),
  (0x0304, "ḶḷṚṛ", "ḸḹṜṝ"),
  (0x0306, "AEGIOUaegiouȨȩΑΙΥαιυ", "ĂĔĞĬŎŬăĕğĭŏŭḜḝᾸῘῨᾰῐῠ"),
  (0x0306, "АЕЖИУаежиуẠạ", "ӐӖӁЙЎӑӗӂйўẶặ"),
  (0x0307, "ABCDEFGHIMNOPRSTWXYZ", "ȦḂĊḊĖḞĠḢİṀṄȮṖṘṠṪẆẊẎŻ"),
  (0x0307, "abcdefghmnoprstwxyzŚ", "ȧḃċḋėḟġḣṁṅȯṗṙṡṫẇẋẏżṤ"),
  (0x0307, "śŠšſṢṣ𐗒𐗚", "ṥṦṧẛṨṩ𐗉𐗤"),
  (0x0308, "AEHIOUWXYaehiotuwxyÕ", "ÄËḦÏÖÜẄẌŸäëḧïöẗüẅẍÿṎ"),
  (0x0308, "õŪūΙΥιυϒІАЕЖЗИОУЧЫЭа", "ṏṺṻΪΫϊϋϔЇӒЁӜӞӤӦӰӴӸӬӓ"),
  (0x0308, "ежзиоучыэіӘәӨө", "ёӝӟӥӧӱӵӹӭїӚӛӪӫ"),
  (0x0309, "AEIOUYaeiouyÂÊÔâêôĂă", "ẢẺỈỎỦỶảẻỉỏủỷẨỂỔẩểổẲẳ"),
  (0x0309, "ƠơƯư", "ỞởỬử"),
  (0x030A, "AUauwy", "ÅŮåůẘẙ"),
  (0x030B, "OUouУу", "ŐŰőűӲӳ"),
  (0x030C, "ACDEGHIKLNORSTUZacde", "ǍČĎĚǦȞǏǨĽŇǑŘŠŤǓŽǎčďě"),
  (0x030C, "ghijklnorstuzÜüƷʒ", "ǧȟǐǰǩľňǒřšťǔžǙǚǮǯ"),
  (0x030F, "AEIORUaeioruѴѵ", "ȀȄȈȌȐȔȁȅȉȍȑȕѶѷ"),
  (0x0311, "AEIORUaeioru", "ȂȆȊȎȒȖȃȇȋȏȓȗ"),
  (0x0313, "ΑΕΗΙΟΩαεηιορυω", "ἈἘἨἸὈὨἀἐἠἰὀῤὐὠ"),
  (0x0314, "ΑΕΗΙΟΡΥΩαεηιορυω", "ἉἙἩἹὉῬὙὩἁἑἡἱὁῥὑὡ"),
  (0x031B, "OUou", "ƠƯơư"),
  (0x0323, "ABDEHIKLMNORSTUVWYZa", "ẠḄḌẸḤỊḲḶṂṆỌṚṢṬỤṾẈỴẒạ"),
  (0x0323, "bdehiklmnorstuvwyzƠơ", "ḅḍẹḥịḳḷṃṇọṛṣṭụṿẉỵẓỢợ"),
  (0x0323, "Ưư", "Ựự"),
  (0x0324, "Uu", "Ṳṳ"),
  (0x0325, "Aa", "Ḁḁ"),
  (0x0326, "STst", "ȘȚșț"),
  (0x0327, "CDEGHKLNRSTcdeghklnr", "ÇḐȨĢḨĶĻŅŖŞŢçḑȩģḩķļņŗ"),
  (0x0327, "st", "şţ"),
  (0x0328, "AEIOUaeiou", "ĄĘĮǪŲąęįǫų"),
  (0x032D, "DELNTUdelntu", "ḒḘḼṊṰṶḓḙḽṋṱṷ"),
  (0x032E, "Hh", "Ḫḫ"),
  (0x0330, "EIUeiu", "ḚḬṴḛḭṵ"),
  (0x0331, "BDKLNRTZbdhklnrtz", "ḆḎḴḺṈṞṮẔḇḏẖḵḻṉṟṯẕ"),
  (0x0338, "<=>←→↔⇐⇒⇔∃∈∋∣∥∼≃≅≈≍≡", "≮≠≯↚↛↮⇍⇏⇎∄∉∌∤∦≁≄≇≉≭≢"),
  (0x0338, "≤≥≲≳≶≷≺≻≼≽⊂⊃⊆⊇⊑⊒⊢⊨⊩⊫", "≰≱≴≵≸≹⊀⊁⋠⋡⊄⊅⊈⊉⋢⋣⊬⊭⊮⊯"),
  (0x0338, "⊲⊳⊴⊵", "⋪⋫⋬⋭"),
  (0x0342, "¨αηιυωϊϋἀἁἈἉἠἡἨἩἰἱἸἹ", "῁ᾶῆῖῦῶῗῧἆἇἎἏἦἧἮἯἶἷἾἿ"),
  (0x0342, "ὐὑὙὠὡὨὩ᾿῾", "ὖὗὟὦὧὮὯ῏῟"),
  (0x0345, "ΑΗΩάήαηωώἀἁἂἃἄἅἆἇἈἉἊ", "ᾼῌῼᾴῄᾳῃῳῴᾀᾁᾂᾃᾄᾅᾆᾇᾈᾉᾊ"),
  (0x0345, "ἋἌἍἎἏἠἡἢἣἤἥἦἧἨἩἪἫἬἭἮ", "ᾋᾌᾍᾎᾏᾐᾑᾒᾓᾔᾕᾖᾗᾘᾙᾚᾛᾜᾝᾞ"),
  (0x0345, "ἯὠὡὢὣὤὥὦὧὨὩὪὫὬὭὮὯὰὴὼ", "ᾟᾠᾡᾢᾣᾤᾥᾦᾧᾨᾩᾪᾫᾬᾭᾮᾯᾲῂῲ"),
  (0x0345, "ᾶῆῶ", "ᾷῇῷ"),
  (0x0653, "ا", "آ"),
  (0x0654, "اويہےە", "أؤئۂۓۀ"),
  (0x0655, "ا", "إ"),
  (0x093C, "नरळ", "ऩऱऴ"),
  (0x09BE, "ে", "ো"),
  (0x09D7, "ে", "ৌ"),
  (0x0B3E, "େ", "ୋ"),
  (0x0B56, "େ", "ୈ"),
  (0x0B57, "େ", "ୌ"),
  (0x0BBE, "ெே", "ொோ"),
  (0x0BD7, "ஒெ", "ஔௌ"),
  (0x0C56, "ె", "ై"),
  (0x0CC2, "ೆ", "ೊ"),
  (0x0CD5, "ಿೆೊ", "ೀೇೋ"),
  (0x0CD6, "ೆ", "ೈ"),
  (0x0D3E, "െേ", "ൊോ"),
  (0x0D57, "െ", "ൌ"),
  (0x0DCA, "ෙො", "ේෝ"),
  (0x0DCF, "ෙ", "ො"),
  (0x0DDF, "ෙ", "ෞ"),
  (0x102E, "ဥ", "ဦ"),
  (0x1B35, "ᬅᬇᬉᬋᬍᬑᬺᬼᬾᬿᭂ", "ᬆᬈᬊᬌᬎᬒᬻᬽᭀᭁᭃ"),
  (0x3099, "うかきくけこさしすせそたちつてとはひふへ", "ゔがぎぐげござじずぜぞだぢづでどばびぶべ"),
  (0x3099, "ほゝウカキクケコサシスセソタチツテトハヒ", "ぼゞヴガギグゲゴザジズゼゾダヂヅデドバビ"),
  (0x3099, "フヘホワヰヱヲヽ", "ブベボヷヸヹヺヾ"),
  (0x309A, "はひふへほハヒフヘホ", "ぱぴぷぺぽパピプペポ"),
  (0x110BA, "𑂙𑂛𑂥", "𑂚𑂜𑂫"),
  (0x11127, "𑄱𑄲", "𑄮𑄯"),
  (0x1133E, "𑍇", "𑍋"),
  (0x11357, "𑍇", "𑍌"),
  (0x113B8, "𑏂", "𑏇"),
  (0x113BB, "𑎄", "𑎅"),
  (0x113C2, "𑎎", "𑎎𑏅"),
  (0x113C9, "𑎂𑎐𑏂", "𑎃𑎑𑏈"),
  (0x114B0, "𑒹", "𑒼"),
  (0x114BA, "𑒹", "𑒻"),
  (0x114BD, "𑒹", "𑒾"),
  (0x115AF, "𑖸𑖹", "𑖺𑖻"),
  (0x11930, "𑤵", "𑤸"),
  (0x1611E, "𖄞", "𖄡"),
  (0x1611F, "𖄡𖄡𖄩𖄩", "𖄣𖄦𖄧𖄤"),
  (0x16120, "𖄡𖄞", "𖄥𖄨"),
  (0x16129, "𖄞", "𖄢"),
  (0x16D67, "𖵩𖵩", "𖵪𖵧𖵪")]

/-- The composite of two characters. -/
def compose? (base added : Char) : Option Char :=
  composites.findSome? fun (code, bases, whole) =>
    if code = added.toNat then
      (bases.toList.zip whole.toList).findSome? fun (b, c) => if b = base then some c else none
    else none

/-- The two characters of a composite. -/
def split? (c : Char) : Option (Char × Char) :=
  composites.findSome? fun (code, bases, whole) =>
    (bases.toList.zip whole.toList).findSome? fun (b, d) =>
      if d = c then some (b, Char.ofNat code) else none

end HardwareIndex.Text
