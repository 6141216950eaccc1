import PageAudit.Text.Mark

/-!
# Composed characters

A letter with a mark may be one character or two. Here a text is taken apart into letters and marks
and put together again, so that the same text is always spelled alike.
-/

namespace PageAudit.Text

/-- The characters that one mark makes of others. -/
structure Composition where
  /-- The number of the mark. -/
  mark : Nat
  /-- The characters that the mark combines with. -/
  bases : String
  /-- What each of them becomes. -/
  composites : String

/-- All compositions but those of Korean letters. -/
def compositions : List Composition :=
  [⟨0x300, "AEINOUWYaeinouwy¨ÂÊÔÜâêôüĂăĒēŌ", "ÀÈÌǸÒÙẀỲàèìǹòùẁỳ῭ẦỀỒǛầềồǜẰằḔḕṐ"⟩,
   ⟨0x300, "ōƠơƯưΑΕΗΙΟΥΩαεηιουωϊϋЕИеиἀἁἈἉἐ", "ṑỜờỪừᾺῈῊῚῸῪῺὰὲὴὶὸὺὼῒῢЀЍѐѝἂἃἊἋἒ"⟩,
   ⟨0x300, "ἑἘἙἠἡἨἩἰἱἸἹὀὁὈὉὐὑὙὠὡὨὩ᾿῾", "ἓἚἛἢἣἪἫἲἳἺἻὂὃὊὋὒὓὛὢὣὪὫ῍῝"⟩,
   ⟨0x301, "ACEGIKLMNOPRSUWYZacegiklmnoprs", "ÁĆÉǴÍḰĹḾŃÓṔŔŚÚẂÝŹáćéǵíḱĺḿńóṕŕś"⟩,
   ⟨0x301, "uwyz¨ÂÅÆÇÊÏÔÕØÜâåæçêïôõøüĂăĒēŌ", "úẃýź΅ẤǺǼḈẾḮỐṌǾǗấǻǽḉếḯốṍǿǘẮắḖḗṒ"⟩,
   ⟨0x301, "ōŨũƠơƯưΑΕΗΙΟΥΩαεηιουωϊϋϒГКгкἀἁ", "ṓṸṹỚớỨứΆΈΉΊΌΎΏάέήίόύώΐΰϓЃЌѓќἄἅ"⟩,
   ⟨0x301, "ἈἉἐἑἘἙἠἡἨἩἰἱἸἹὀὁὈὉὐὑὙὠὡὨὩ᾿῾", "ἌἍἔἕἜἝἤἥἬἭἴἵἼἽὄὅὌὍὔὕὝὤὥὬὭ῎῞"⟩,
   ⟨0x302, "ACEGHIJOSUWYZaceghijosuwyzẠạẸẹ", "ÂĈÊĜĤÎĴÔŜÛŴŶẐâĉêĝĥîĵôŝûŵŷẑẬậỆệ"⟩, ⟨0x302, "Ọọ", "Ộộ"⟩,
   ⟨0x303, "AEINOUVYaeinouvyÂÊÔâêôĂăƠơƯư", "ÃẼĨÑÕŨṼỸãẽĩñõũṽỹẪỄỖẫễỗẴẵỠỡỮữ"⟩,
   ⟨0x304, "AEGIOUYaegiouyÄÆÕÖÜäæõöüǪǫȦȧȮȯ", "ĀĒḠĪŌŪȲāēḡīōūȳǞǢȬȪǕǟǣȭȫǖǬǭǠǡȰȱ"⟩,
   ⟨0x304, "ΑΙΥαιυИУиуḶḷṚṛ", "ᾹῙῩᾱῑῡӢӮӣӯḸḹṜṝ"⟩,
   ⟨0x306, "AEGIOUaegiouȨȩΑΙΥαιυАЕЖИУаежиу", "ĂĔĞĬŎŬăĕğĭŏŭḜḝᾸῘῨᾰῐῠӐӖӁЙЎӑӗӂйў"⟩, ⟨0x306, "Ạạ", "Ặặ"⟩,
   ⟨0x307, "ABCDEFGHIMNOPRSTWXYZabcdefghmn", "ȦḂĊḊĖḞĠḢİṀṄȮṖṘṠṪẆẊẎŻȧḃċḋėḟġḣṁṅ"⟩,
   ⟨0x307, "oprstwxyzŚśŠšſṢṣ", "ȯṗṙṡṫẇẋẏżṤṥṦṧẛṨṩ"⟩,
   ⟨0x308, "AEHIOUWXYaehiotuwxyÕõŪūΙΥιυϒІА", "ÄËḦÏÖÜẄẌŸäëḧïöẗüẅẍÿṎṏṺṻΪΫϊϋϔЇӒ"⟩,
   ⟨0x308, "ЕЖЗИОУЧЫЭаежзиоучыэіӘәӨө", "ЁӜӞӤӦӰӴӸӬӓёӝӟӥӧӱӵӹӭїӚӛӪӫ"⟩,
   ⟨0x309, "AEIOUYaeiouyÂÊÔâêôĂăƠơƯư", "ẢẺỈỎỦỶảẻỉỏủỷẨỂỔẩểổẲẳỞởỬử"⟩, ⟨0x30a, "AUauwy", "ÅŮåůẘẙ"⟩,
   ⟨0x30b, "OUouУу", "ŐŰőűӲӳ"⟩,
   ⟨0x30c, "ACDEGHIKLNORSTUZacdeghijklnors", "ǍČĎĚǦȞǏǨĽŇǑŘŠŤǓŽǎčďěǧȟǐǰǩľňǒřš"⟩,
   ⟨0x30c, "tuzÜüƷʒ", "ťǔžǙǚǮǯ"⟩, ⟨0x30f, "AEIORUaeioruѴѵ", "ȀȄȈȌȐȔȁȅȉȍȑȕѶѷ"⟩,
   ⟨0x311, "AEIORUaeioru", "ȂȆȊȎȒȖȃȇȋȏȓȗ"⟩, ⟨0x313, "ΑΕΗΙΟΩαεηιορυω", "ἈἘἨἸὈὨἀἐἠἰὀῤὐὠ"⟩,
   ⟨0x314, "ΑΕΗΙΟΡΥΩαεηιορυω", "ἉἙἩἹὉῬὙὩἁἑἡἱὁῥὑὡ"⟩, ⟨0x31b, "OUou", "ƠƯơư"⟩,
   ⟨0x323, "ABDEHIKLMNORSTUVWYZabdehiklmno", "ẠḄḌẸḤỊḲḶṂṆỌṚṢṬỤṾẈỴẒạḅḍẹḥịḳḷṃṇọ"⟩,
   ⟨0x323, "rstuvwyzƠơƯư", "ṛṣṭụṿẉỵẓỢợỰự"⟩, ⟨0x324, "Uu", "Ṳṳ"⟩, ⟨0x325, "Aa", "Ḁḁ"⟩,
   ⟨0x326, "STst", "ȘȚșț"⟩, ⟨0x327, "CDEGHKLNRSTcdeghklnrst", "ÇḐȨĢḨĶĻŅŖŞŢçḑȩģḩķļņŗşţ"⟩,
   ⟨0x328, "AEIOUaeiou", "ĄĘĮǪŲąęįǫų"⟩, ⟨0x32d, "DELNTUdelntu", "ḒḘḼṊṰṶḓḙḽṋṱṷ"⟩,
   ⟨0x32e, "Hh", "Ḫḫ"⟩, ⟨0x330, "EIUeiu", "ḚḬṴḛḭṵ"⟩,
   ⟨0x331, "BDKLNRTZbdhklnrtz", "ḆḎḴḺṈṞṮẔḇḏẖḵḻṉṟṯẕ"⟩,
   ⟨0x338, "<=>←→↔⇐⇒⇔∃∈∋∣∥∼≃≅≈≍≡≤≥≲≳≶≷≺≻≼≽", "≮≠≯↚↛↮⇍⇏⇎∄∉∌∤∦≁≄≇≉≭≢≰≱≴≵≸≹⊀⊁⋠⋡"⟩,
   ⟨0x338, "⊂⊃⊆⊇⊑⊒⊢⊨⊩⊫⊲⊳⊴⊵", "⊄⊅⊈⊉⋢⋣⊬⊭⊮⊯⋪⋫⋬⋭"⟩,
   ⟨0x342, "¨αηιυωϊϋἀἁἈἉἠἡἨἩἰἱἸἹὐὑὙὠὡὨὩ᾿῾", "῁ᾶῆῖῦῶῗῧἆἇἎἏἦἧἮἯἶἷἾἿὖὗὟὦὧὮὯ῏῟"⟩,
   ⟨0x345, "ΑΗΩάήαηωώἀἁἂἃἄἅἆἇἈἉἊἋἌἍἎἏἠἡἢἣἤ", "ᾼῌῼᾴῄᾳῃῳῴᾀᾁᾂᾃᾄᾅᾆᾇᾈᾉᾊᾋᾌᾍᾎᾏᾐᾑᾒᾓᾔ"⟩,
   ⟨0x345, "ἥἦἧἨἩἪἫἬἭἮἯὠὡὢὣὤὥὦὧὨὩὪὫὬὭὮὯὰὴὼ", "ᾕᾖᾗᾘᾙᾚᾛᾜᾝᾞᾟᾠᾡᾢᾣᾤᾥᾦᾧᾨᾩᾪᾫᾬᾭᾮᾯᾲῂῲ"⟩,
   ⟨0x345, "ᾶῆῶ", "ᾷῇῷ"⟩, ⟨0x653, "\u0627", "\u0622"⟩,
   ⟨0x654, "\u0627\u0648\u064a\u06c1\u06d2\u06d5", "\u0623\u0624\u0626\u06c2\u06d3\u06c0"⟩,
   ⟨0x655, "\u0627", "\u0625"⟩, ⟨0x93c, "नरळ", "ऩऱऴ"⟩, ⟨0x9be, "\u09c7", "\u09cb"⟩,
   ⟨0x9d7, "\u09c7", "\u09cc"⟩, ⟨0xb3e, "\u0b47", "\u0b4b"⟩, ⟨0xb56, "\u0b47", "\u0b48"⟩,
   ⟨0xb57, "\u0b47", "\u0b4c"⟩, ⟨0xbbe, "\u0bc6\u0bc7", "\u0bca\u0bcb"⟩,
   ⟨0xbd7, "ஒ\u0bc6", "ஔ\u0bcc"⟩, ⟨0xc56, "\u0c46", "\u0c48"⟩, ⟨0xcc2, "\u0cc6", "\u0cca"⟩,
   ⟨0xcd5, "\u0cbf\u0cc6\u0cca", "\u0cc0\u0cc7\u0ccb"⟩, ⟨0xcd6, "\u0cc6", "\u0cc8"⟩,
   ⟨0xd3e, "\u0d46\u0d47", "\u0d4a\u0d4b"⟩, ⟨0xd57, "\u0d46", "\u0d4c"⟩,
   ⟨0xdca, "\u0dd9\u0ddc", "\u0dda\u0ddd"⟩, ⟨0xdcf, "\u0dd9", "\u0ddc"⟩,
   ⟨0xddf, "\u0dd9", "\u0dde"⟩, ⟨0x102e, "ဥ", "ဦ"⟩,
   ⟨0x1b35, "ᬅᬇᬉᬋᬍᬑ\u1b3a\u1b3c\u1b3e\u1b3f\u1b42", "ᬆᬈᬊᬌᬎᬒ\u1b3b\u1b3d\u1b40\u1b41\u1b43"⟩,
   ⟨0x3099, "うかきくけこさしすせそたちつてとはひふへほゝウカキクケコサシ", "ゔがぎぐげござじずぜぞだぢづでどばびぶべぼゞヴガギグゲゴザジ"⟩,
   ⟨0x3099, "スセソタチツテトハヒフヘホワヰヱヲヽ", "ズゼゾダヂヅデドバビブベボヷヸヹヺヾ"⟩, ⟨0x309a, "はひふへほハヒフヘホ", "ぱぴぷぺぽパピプペポ"⟩,
   ⟨0x110ba, "𑂙𑂛𑂥", "𑂚𑂜𑂫"⟩, ⟨0x11127, "𑄱𑄲", "𑄮𑄯"⟩, ⟨0x1133e, "𑍇", "𑍋"⟩, ⟨0x11357, "𑍇", "𑍌"⟩,
   ⟨0x114b0, "𑒹", "𑒼"⟩, ⟨0x114ba, "𑒹", "𑒻"⟩, ⟨0x114bd, "𑒹", "𑒾"⟩, ⟨0x115af, "𑖸𑖹", "𑖺𑖻"⟩,
   ⟨0x11930, "𑤵", "𑤸"⟩]

/-- The bases of a mark, each with what it becomes. -/
def Composition.pairs (row : Composition) : List (CodePoint × CodePoint) :=
  (ofString row.bases).zip (ofString row.composites)

/-! ## Korean syllables -/

/-- The number of the first letter that begins a syllable; there are nineteen. -/
def firstLeading : Nat := 0x1100

/-- The number of the first vowel of a syllable; there are twenty-one. -/
def firstVowel : Nat := 0x1161

/-- The number before the first letter that ends a syllable; there are twenty-seven. -/
def beforeTrailing : Nat := 0x11a7

/-- The number of the first syllable. -/
def firstSyllable : Nat := 0xac00

/-- The number of the syllable that two parts make: a leading letter and a vowel, or a syllable
without a trailing letter and that letter. -/
def syllable? (a b : Nat) : Option Nat :=
  if firstLeading ≤ a ∧ a < firstLeading + 19 ∧ firstVowel ≤ b ∧ b < firstVowel + 21 then
    some (firstSyllable + ((a - firstLeading) * 21 + (b - firstVowel)) * 28)
  else if firstSyllable ≤ a ∧ a < firstSyllable + 19 * 21 * 28 ∧ (a - firstSyllable) % 28 = 0 ∧
      beforeTrailing < b ∧ b < beforeTrailing + 28 then
    some (a + (b - beforeTrailing))
  else none

/-! ## Taking apart and putting together -/

/-- The number of the first composite. -/
def firstComposite : Nat := 0xc0

/-- The character that two make, if they make one. -/
def compose? (a b : CodePoint) : Option CodePoint :=
  match syllable? a.toNat b.toNat with
  | some n => some (.ofNat n)
  | none =>
    compositions.findSome? fun row => if row.mark = b.toNat then row.pairs.lookup a else none

/-- The two characters that make one, if there are any. -/
def parts? (c : CodePoint) : Option (CodePoint × CodePoint) :=
  compositions.findSome? fun row =>
    (row.pairs.find? fun (_, composite) => composite = c).map fun (base, _) =>
      (base, .ofNat row.mark)

/-- Takes up to `count` marks off a character. -/
def takeMarks : Nat → CodePoint → Text
  | 0, c => [c]
  | count + 1, c =>
    match parts? c with
    | none => [c]
    | some (base, mark) => takeMarks count base ++ [mark]

/-- The most marks that one character holds. -/
def maxMarks : Nat := 3

/-- A character taken apart. -/
def decompose (c : CodePoint) : Text :=
  if c.toNat < firstComposite then [c] else takeMarks maxMarks c

/-- Whether a code point cannot reach the character before the marks that wait, the last of which
comes first. -/
def isBlocked (waiting : Text) (c : CodePoint) : Bool :=
  waiting.head?.any fun mark => markClass c ≤ markClass mark

/-- Puts a text together with the character before it, from which `waiting` keeps it apart. -/
def composeAfter (base : CodePoint) (waiting : Text) : Text → Text
  | [] => base :: waiting.reverse
  | c :: rest =>
    match if isBlocked waiting c then none else compose? base c with
    | some composite => composeAfter composite waiting rest
    | none =>
      if markClass c = 0 then base :: waiting.reverse ++ composeAfter c [] rest
      else composeAfter base (c :: waiting) rest

/-- Puts a text together; the marks before its first character stay as they are. -/
def compose : Text → Text
  | [] => []
  | c :: rest => if markClass c = 0 then composeAfter c [] rest else c :: compose rest

/-- A text in its composed form: taken apart, put in order and put together. -/
def composed (t : Text) : Text := compose (orderMarks (t.flatMap decompose))

end PageAudit.Text
