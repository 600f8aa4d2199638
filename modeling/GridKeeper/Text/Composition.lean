/-!
# Letters with a mark

Many letters with a mark are characters of their own as well. Here is which letter and which mark
make such a character, and which ones a character is made of. The syllables of Hangul are made of
their letters by arithmetic. Characters that are taken apart but never put together are not here.
-/
namespace GridKeeper.Text

/-- Rows of a mark, the letters that it is put on, and the same letters with it. -/
def markedLetters : List (Nat × String × String) := [
  (0x300, "AEIOUaeiouÜüNnЕИеиĒēŌōWwÂâĂăÊêÔôƠơƯư",
    "ÀÈÌÒÙàèìòùǛǜǸǹЀЍѐѝḔḕṐṑẀẁẦầẰằỀềỒồỜờỪừ"),
  (0x300, "YyἀἁἈἉἐἑἘἙἠἡἨἩἰἱἸἹὀὁὈὉὐὑὙὠὡὨὩαεηιουω",
    "ỲỳἂἃἊἋἒἓἚἛἢἣἪἫἲἳἺἻὂὃὊὋὒὓὛὢὣὪὫὰὲὴὶὸὺὼ"),
  (0x300, "ΑΕΗ᾿ϊΙ῾ϋΥ¨ΟΩ",
    "ᾺῈῊ῍ῒῚ῝ῢῪ῭ῸῺ"),
  (0x301, "AEIOUYaeiouyCcLlNnRrSsZzÜüGgÅåÆæØø¨Α",
    "ÁÉÍÓÚÝáéíóúýĆćĹĺŃńŔŕŚśŹźǗǘǴǵǺǻǼǽǾǿ΅Ά"),
  (0x301, "ΕΗΙΟΥΩϊαεηιϋουωϒГКгкÇçĒēÏïKkMmÕõŌōPp",
    "ΈΉΊΌΎΏΐάέήίΰόύώϓЃЌѓќḈḉḖḗḮḯḰḱḾḿṌṍṒṓṔṕ"),
  (0x301, "ŨũWwÂâĂăÊêÔôƠơƯưἀἁἈἉἐἑἘἙἠἡἨἩἰἱἸἹὀὁὈὉ",
    "ṸṹẂẃẤấẮắẾếỐốỚớỨứἄἅἌἍἔἕἜἝἤἥἬἭἴἵἼἽὄὅὌὍ"),
  (0x301, "ὐὑὙὠὡὨὩ᾿῾",
    "ὔὕὝὤὥὬὭ῎῞"),
  (0x302, "AEIOUaeiouCcGgHhJjSsWwYyZzẠạẸẹỌọ",
    "ÂÊÎÔÛâêîôûĈĉĜĝĤĥĴĵŜŝŴŵŶŷẐẑẬậỆệỘộ"),
  (0x303, "ANOanoIiUuVvÂâĂăEeÊêÔôƠơƯưYy",
    "ÃÑÕãñõĨĩŨũṼṽẪẫẴẵẼẽỄễỖỗỠỡỮữỸỹ"),
  (0x304, "AaEeIiOoUuÜüÄäȦȧÆæǪǫÖöÕõȮȯYyИиУуGgḶḷ",
    "ĀāĒēĪīŌōŪūǕǖǞǟǠǡǢǣǬǭȪȫȬȭȰȱȲȳӢӣӮӯḠḡḸḹ"),
  (0x304, "ṚṛαΑιΙυΥ",
    "ṜṝᾱᾹῑῙῡῩ"),
  (0x306, "AaEeGgIiOoUuУИиуЖжАаЕеȨȩẠạαΑιΙυΥ",
    "ĂăĔĕĞğĬĭŎŏŬŭЎЙйўӁӂӐӑӖӗḜḝẶặᾰᾸῐῘῠῨ"),
  (0x307, "CcEeGgIZzAaOoBbDdFfHhMmNnPpRrSsŚśŠšṢ",
    "ĊċĖėĠġİŻżȦȧȮȯḂḃḊḋḞḟḢḣṀṁṄṅṖṗṘṙṠṡṤṥṦṧṨ"),
  (0x307, "ṣTtWwXxYyſ",
    "ṩṪṫẆẇẊẋẎẏẛ"),
  (0x308, "AEIOUaeiouyYΙΥιυϒЕІеіАаӘәЖжЗзИиОоӨөЭ",
    "ÄËÏÖÜäëïöüÿŸΪΫϊϋϔЁЇёїӒӓӚӛӜӝӞӟӤӥӦӧӪӫӬ"),
  (0x308, "эУуЧчЫыHhÕõŪūWwXxt",
    "ӭӰӱӴӵӸӹḦḧṎṏṺṻẄẅẌẍẗ"),
  (0x309, "AaÂâĂăEeÊêIiOoÔôƠơUuƯưYy",
    "ẢảẨẩẲẳẺẻỂểỈỉỎỏỔổỞởỦủỬửỶỷ"),
  (0x30a, "AaUuwy",
    "ÅåŮůẘẙ"),
  (0x30b, "OoUuУу",
    "ŐőŰűӲӳ"),
  (0x30c, "CcDdEeLlNnRrSsTtZzAaIiOoUuÜüGgKkƷʒjH",
    "ČčĎďĚěĽľŇňŘřŠšŤťŽžǍǎǏǐǑǒǓǔǙǚǦǧǨǩǮǯǰȞ"),
  (0x30c, "h",
    "ȟ"),
  (0x30f, "AaEeIiOoRrUuѴѵ",
    "ȀȁȄȅȈȉȌȍȐȑȔȕѶѷ"),
  (0x311, "AaEeIiOoRrUu",
    "ȂȃȆȇȊȋȎȏȒȓȖȗ"),
  (0x313, "αΑεΕηΗιΙοΟυωΩρ",
    "ἀἈἐἘἠἨἰἸὀὈὐὠὨῤ"),
  (0x314, "αΑεΕηΗιΙοΟυΥωΩρΡ",
    "ἁἉἑἙἡἩἱἹὁὉὑὙὡὩῥῬ"),
  (0x31b, "OoUu",
    "ƠơƯư"),
  (0x323, "BbDdHhKkLlMmNnRrSsTtVvWwZzAaEeIiOoƠơ",
    "ḄḅḌḍḤḥḲḳḶḷṂṃṆṇṚṛṢṣṬṭṾṿẈẉẒẓẠạẸẹỊịỌọỢợ"),
  (0x323, "UuƯưYy",
    "ỤụỰựỴỵ"),
  (0x324, "Uu",
    "Ṳṳ"),
  (0x325, "Aa",
    "Ḁḁ"),
  (0x326, "SsTt",
    "ȘșȚț"),
  (0x327, "CcGgKkLlNnRrSsTtEeDdHh",
    "ÇçĢģĶķĻļŅņŖŗŞşŢţȨȩḐḑḨḩ"),
  (0x328, "AaEeIiUuOo",
    "ĄąĘęĮįŲųǪǫ"),
  (0x32d, "DdEeLlNnTtUu",
    "ḒḓḘḙḼḽṊṋṰṱṶṷ"),
  (0x32e, "Hh",
    "Ḫḫ"),
  (0x330, "EeIiUu",
    "ḚḛḬḭṴṵ"),
  (0x331, "BbDdKkLlNnRrTtZzh",
    "ḆḇḎḏḴḵḺḻṈṉṞṟṮṯẔẕẖ"),
  (0x338, "←→↔⇐⇔⇒∃∈∋∣∥∼≃≅≈=≡≍<>≤≥≲≳≶≷≺≻⊂⊃⊆⊇⊢⊨⊩⊫",
    "↚↛↮⇍⇎⇏∄∉∌∤∦≁≄≇≉≠≢≭≮≯≰≱≴≵≸≹⊀⊁⊄⊅⊈⊉⊬⊭⊮⊯"),
  (0x338, "≼≽⊑⊒⊲⊳⊴⊵",
    "⋠⋡⋢⋣⋪⋫⋬⋭"),
  (0x342, "ἀἁἈἉἠἡἨἩἰἱἸἹὐὑὙὠὡὨὩα¨η᾿ιϊ῾υϋω",
    "ἆἇἎἏἦἧἮἯἶἷἾἿὖὗὟὦὧὮὯᾶ῁ῆ῏ῖῗ῟ῦῧῶ"),
  (0x345, "ἀἁἂἃἄἅἆἇἈἉἊἋἌἍἎἏἠἡἢἣἤἥἦἧἨἩἪἫἬἭἮἯὠὡὢὣ",
    "ᾀᾁᾂᾃᾄᾅᾆᾇᾈᾉᾊᾋᾌᾍᾎᾏᾐᾑᾒᾓᾔᾕᾖᾗᾘᾙᾚᾛᾜᾝᾞᾟᾠᾡᾢᾣ"),
  (0x345, "ὤὥὦὧὨὩὪὫὬὭὮὯὰαάᾶΑὴηήῆΗὼωώῶΩ",
    "ᾤᾥᾦᾧᾨᾩᾪᾫᾬᾭᾮᾯᾲᾳᾴᾷᾼῂῃῄῇῌῲῳῴῷῼ"),
  (0x3099, "かきくけこさしすせそたちつてとはひふへほうゝカキクケコサシスセソタチツテ",
    "がぎぐげござじずぜぞだぢづでどばびぶべぼゔゞガギグゲゴザジズゼゾダヂヅデ"),
  (0x3099, "トハヒフヘホウワヰヱヲヽ",
    "ドバビブベボヴヷヸヹヺヾ"),
  (0x309a, "はひふへほハヒフヘホ",
    "ぱぴぷぺぽパピプペポ")]

/-- Letters and vowel signs of other scripts: the second part, the first part, and both in one. -/
def markedSigns : List (Nat × Nat × Nat) := [
  (0x307, 0x105d2, 0x105c9), (0x307, 0x105da, 0x105e4), (0x653, 0x627, 0x622),
  (0x654, 0x627, 0x623), (0x654, 0x648, 0x624), (0x654, 0x64a, 0x626), (0x654, 0x6d5, 0x6c0),
  (0x654, 0x6c1, 0x6c2), (0x654, 0x6d2, 0x6d3), (0x655, 0x627, 0x625), (0x93c, 0x928, 0x929),
  (0x93c, 0x930, 0x931), (0x93c, 0x933, 0x934), (0x9be, 0x9c7, 0x9cb), (0x9d7, 0x9c7, 0x9cc),
  (0xb3e, 0xb47, 0xb4b), (0xb56, 0xb47, 0xb48), (0xb57, 0xb47, 0xb4c), (0xbbe, 0xbc6, 0xbca),
  (0xbbe, 0xbc7, 0xbcb), (0xbd7, 0xb92, 0xb94), (0xbd7, 0xbc6, 0xbcc), (0xc56, 0xc46, 0xc48),
  (0xcc2, 0xcc6, 0xcca), (0xcd5, 0xcbf, 0xcc0), (0xcd5, 0xcc6, 0xcc7), (0xcd5, 0xcca, 0xccb),
  (0xcd6, 0xcc6, 0xcc8), (0xd3e, 0xd46, 0xd4a), (0xd3e, 0xd47, 0xd4b), (0xd57, 0xd46, 0xd4c),
  (0xdca, 0xdd9, 0xdda), (0xdca, 0xddc, 0xddd), (0xdcf, 0xdd9, 0xddc), (0xddf, 0xdd9, 0xdde),
  (0x102e, 0x1025, 0x1026), (0x1b35, 0x1b05, 0x1b06), (0x1b35, 0x1b07, 0x1b08),
  (0x1b35, 0x1b09, 0x1b0a), (0x1b35, 0x1b0b, 0x1b0c), (0x1b35, 0x1b0d, 0x1b0e),
  (0x1b35, 0x1b11, 0x1b12), (0x1b35, 0x1b3a, 0x1b3b), (0x1b35, 0x1b3c, 0x1b3d),
  (0x1b35, 0x1b3e, 0x1b40), (0x1b35, 0x1b3f, 0x1b41), (0x1b35, 0x1b42, 0x1b43),
  (0x110ba, 0x11099, 0x1109a), (0x110ba, 0x1109b, 0x1109c), (0x110ba, 0x110a5, 0x110ab),
  (0x11127, 0x11131, 0x1112e), (0x11127, 0x11132, 0x1112f), (0x1133e, 0x11347, 0x1134b),
  (0x11357, 0x11347, 0x1134c), (0x113b8, 0x113c2, 0x113c7), (0x113bb, 0x11384, 0x11385),
  (0x113c2, 0x1138b, 0x1138e), (0x113c2, 0x113c2, 0x113c5), (0x113c9, 0x11382, 0x11383),
  (0x113c9, 0x11390, 0x11391), (0x113c9, 0x113c2, 0x113c8), (0x114b0, 0x114b9, 0x114bc),
  (0x114ba, 0x114b9, 0x114bb), (0x114bd, 0x114b9, 0x114be), (0x115af, 0x115b8, 0x115ba),
  (0x115af, 0x115b9, 0x115bb), (0x11930, 0x11935, 0x11938), (0x1611e, 0x1611e, 0x16121),
  (0x1611f, 0x1611e, 0x16123), (0x1611f, 0x16129, 0x16124), (0x1611f, 0x16121, 0x16126),
  (0x1611f, 0x16122, 0x16127), (0x16120, 0x1611e, 0x16125), (0x16120, 0x16121, 0x16128),
  (0x16129, 0x1611e, 0x16122), (0x16d67, 0x16d67, 0x16d68), (0x16d67, 0x16d63, 0x16d69),
  (0x16d67, 0x16d69, 0x16d6a)]

/-- The parts of characters made of two, the second part first, and the whole. -/
def compositions : List (Char × Char × Char) :=
  (markedLetters.flatMap fun (mark, letters, wholes) =>
    (letters.toList.zip wholes.toList).map fun (letter, whole) =>
      (Char.ofNat mark, letter, whole)) ++
  markedSigns.map fun (second, first, whole) =>
    (Char.ofNat second, Char.ofNat first, Char.ofNat whole)

/-! ## Hangul -/

def hangulSyllable : Nat := 0xac00

/-- The first of the 19 leading consonants. -/
def hangulLead : Nat := 0x1100

def hangulVowel : Nat := 0x1161

/-- The place before the first of the 27 trailing consonants; it stands for no consonant. -/
def hangulTail : Nat := 0x11a7

/-- The syllable of a leading consonant and a vowel, or of a syllable without a trailing consonant
and such a consonant. -/
def hangulJoin? (first second : Nat) : Option Nat :=
  if hangulLead ≤ first ∧ first < hangulLead + 19 ∧ hangulVowel ≤ second ∧
      second < hangulVowel + 21 then
    some (hangulSyllable + ((first - hangulLead) * 21 + (second - hangulVowel)) * 28)
  else if hangulSyllable ≤ first ∧ first < hangulSyllable + 19 * 21 * 28 ∧
      (first - hangulSyllable) % 28 = 0 ∧ hangulTail < second ∧ second < hangulTail + 28 then
    some (first + (second - hangulTail))
  else none

def hangulParts? (n : Nat) : Option (Nat × Nat) :=
  if hangulSyllable ≤ n ∧ n < hangulSyllable + 19 * 21 * 28 then
    let place := n - hangulSyllable
    if place % 28 = 0 then
      some (hangulLead + place / 28 / 21, hangulVowel + place / 28 % 21)
    else some (n - place % 28, hangulTail + place % 28)
  else none

/-! ## All characters -/

/-- The character that `first` and `second` make together. -/
def compose? (first second : Char) : Option Char :=
  match hangulJoin? first.toNat second.toNat with
  | some n => some (Char.ofNat n)
  | none => compositions.findSome? fun (b, a, whole) =>
      if a = first ∧ b = second then some whole else none

/-- The two characters that a character is made of. The first such character is U+00C0. -/
def parts? (c : Char) : Option (Char × Char) :=
  if c.toNat < 0xc0 then none
  else match hangulParts? c.toNat with
    | some (a, b) => some (Char.ofNat a, Char.ofNat b)
    | none => compositions.findSome? fun (b, a, whole) => if whole = c then some (a, b) else none

end GridKeeper.Text
