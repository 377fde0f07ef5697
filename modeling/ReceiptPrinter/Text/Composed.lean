/-
Letters with marks in one form.

A letter and the marks on it can be written as one character or as several.
`composed` writes them as few characters as there are: it takes all apart,
puts the marks in order, and joins again what has a character of its own.
The syllables of Korean are made of letters by rule, all others by table.
-/
import ReceiptPrinter.Text.Mark

namespace ReceiptPrinter.Text

/-- A mark, or another second part, and the pairs of characters without it
and with it. -/
structure Joined where
  second : Nat
  pairs : String

/-- The characters that are made of two. -/
def joinedPairs : List Joined :=
  [⟨0x300, "AÀEÈIÌOÒUÙaàeèiìoòuùÜǛüǜNǸnǹЕЀИЍеѐиѝĒḔēḕŌṐōṑWẀwẁÂẦâầĂẰăằÊỀêềÔỒôồƠỜơờƯỪưừYỲyỳἀἂἁἃ"⟩,
   ⟨0x300, "ἈἊἉἋἐἒἑἓἘἚἙἛἠἢἡἣἨἪἩἫἰἲἱἳἸἺἹἻὀὂὁὃὈὊὉὋὐὒὑὓὙὛὠὢὡὣὨὪὩὫαὰεὲηὴιὶοὸυὺωὼΑᾺΕῈΗῊ"⟩,
   ⟨0x300, "\u1FBF\u1FCDϊῒΙῚ\u1FFE\u1FDDϋῢΥῪ\u00A8\u1FEDΟῸΩῺ"⟩,
   ⟨0x301, "AÁEÉIÍOÓUÚYÝaáeéiíoóuúyýCĆcćLĹlĺNŃnńRŔrŕSŚsśZŹzźÜǗüǘGǴgǵÅǺåǻÆǼæǽØǾøǿ\u00A8\u0385"⟩,
   ⟨0x301, "ΑΆΕΈΗΉΙΊΟΌΥΎΩΏϊΐαάεέηήιίϋΰοόυύωώϒϓГЃКЌгѓкќÇḈçḉĒḖēḗÏḮïḯKḰkḱMḾmḿÕṌõṍŌṒōṓPṔpṕŨṸũṹWẂ"⟩,
   ⟨0x301, "wẃÂẤâấĂẮăắÊẾêếÔỐôốƠỚơớƯỨưứἀἄἁἅἈἌἉἍἐἔἑἕἘἜἙἝἠἤἡἥἨἬἩἭἰἴἱἵἸἼἹἽὀὄὁὅὈὌὉὍὐὔὑὕὙὝὠὤὡὥὨὬὩὭ"⟩,
   ⟨0x301, "\u1FBF\u1FCE\u1FFE\u1FDE"⟩,
   ⟨0x302, "AÂEÊIÎOÔUÛaâeêiîoôuûCĈcĉGĜgĝHĤhĥJĴjĵSŜsŝWŴwŵYŶyŷZẐzẑẠẬạậẸỆẹệỌỘọộ"⟩,
   ⟨0x303, "AÃNÑOÕaãnñoõIĨiĩUŨuũVṼvṽÂẪâẫĂẴăẵEẼeẽÊỄêễÔỖôỗƠỠơỡƯỮưữYỸyỹ"⟩,
   ⟨0x304, "AĀaāEĒeēIĪiīOŌoōUŪuūÜǕüǖÄǞäǟȦǠȧǡÆǢæǣǪǬǫǭÖȪöȫÕȬõȭȮȰȯȱYȲyȳИӢиӣУӮуӯGḠgḡḶḸḷḹṚṜṛṝαᾱΑᾹ"⟩,
   ⟨0x304, "ιῑΙῙυῡΥῩ"⟩,
   ⟨0x306, "AĂaăEĔeĕGĞgğIĬiĭOŎoŏUŬuŭУЎИЙийуўЖӁжӂАӐаӑЕӖеӗȨḜȩḝẠẶạặαᾰΑᾸιῐΙῘυῠΥῨ"⟩,
   ⟨0x307, "CĊcċEĖeėGĠgġIİZŻzżAȦaȧOȮoȯBḂbḃDḊdḋFḞfḟHḢhḣMṀmṁNṄnṅPṖpṗRṘrṙSṠsṡŚṤśṥŠṦšṧṢṨṣṩTṪtṫWẆ"⟩,
   ⟨0x307, "wẇXẊxẋYẎyẏſẛ𐗒𐗉𐗚𐗤"⟩,
   ⟨0x308, "AÄEËIÏOÖUÜaäeëiïoöuüyÿYŸΙΪΥΫιϊυϋϒϔЕЁІЇеёіїАӒаӓӘӚәӛЖӜжӝЗӞзӟИӤиӥОӦоӧӨӪөӫЭӬэӭУӰуӱЧӴ"⟩,
   ⟨0x308, "чӵЫӸыӹHḦhḧÕṎõṏŪṺūṻWẄwẅXẌxẍtẗ"⟩,
   ⟨0x309, "AẢaảÂẨâẩĂẲăẳEẺeẻÊỂêểIỈiỉOỎoỏÔỔôổƠỞơởUỦuủƯỬưửYỶyỷ"⟩, ⟨0x30A, "AÅaåUŮuůwẘyẙ"⟩,
   ⟨0x30B, "OŐoőUŰuűУӲуӳ"⟩,
   ⟨0x30C, "CČcčDĎdďEĚeěLĽlľNŇnňRŘrřSŠsšTŤtťZŽzžAǍaǎIǏiǐOǑoǒUǓuǔÜǙüǚGǦgǧKǨkǩƷǮʒǯjǰHȞhȟ"⟩,
   ⟨0x30F, "AȀaȁEȄeȅIȈiȉOȌoȍRȐrȑUȔuȕѴѶѵѷ"⟩, ⟨0x311, "AȂaȃEȆeȇIȊiȋOȎoȏRȒrȓUȖuȗ"⟩,
   ⟨0x313, "αἀΑἈεἐΕἘηἠΗἨιἰΙἸοὀΟὈυὐωὠΩὨρῤ"⟩, ⟨0x314, "αἁΑἉεἑΕἙηἡΗἩιἱΙἹοὁΟὉυὑΥὙωὡΩὩρῥΡῬ"⟩,
   ⟨0x31B, "OƠoơUƯuư"⟩,
   ⟨0x323, "BḄbḅDḌdḍHḤhḥKḲkḳLḶlḷMṂmṃNṆnṇRṚrṛSṢsṣTṬtṭVṾvṿWẈwẉZẒzẓAẠaạEẸeẹIỊiịOỌoọƠỢơợUỤuụƯỰưự"⟩,
   ⟨0x323, "YỴyỵ"⟩, ⟨0x324, "UṲuṳ"⟩, ⟨0x325, "AḀaḁ"⟩, ⟨0x326, "SȘsșTȚtț"⟩,
   ⟨0x327, "CÇcçGĢgģKĶkķLĻlļNŅnņRŖrŗSŞsşTŢtţEȨeȩDḐdḑHḨhḩ"⟩, ⟨0x328, "AĄaąEĘeęIĮiįUŲuųOǪoǫ"⟩,
   ⟨0x32D, "DḒdḓEḘeḙLḼlḽNṊnṋTṰtṱUṶuṷ"⟩, ⟨0x32E, "HḪhḫ"⟩, ⟨0x330, "EḚeḛIḬiḭUṴuṵ"⟩,
   ⟨0x331, "BḆbḇDḎdḏKḴkḵLḺlḻNṈnṉRṞrṟTṮtṯZẔzẕhẖ"⟩,
   ⟨0x338, "←↚→↛↔↮⇐⇍⇔⇎⇒⇏∃∄∈∉∋∌∣∤∥∦∼≁≃≄≅≇≈≉=≠≡≢≍≭<≮>≯≤≰≥≱≲≴≳≵≶≸≷≹≺⊀≻⊁⊂⊄⊃⊅⊆⊈⊇⊉⊢⊬⊨⊭⊩⊮⊫⊯≼⋠≽⋡⊑⋢⊒⋣"⟩,
   ⟨0x338, "⊲⋪⊳⋫⊴⋬⊵⋭"⟩,
   ⟨0x342, "ἀἆἁἇἈἎἉἏἠἦἡἧἨἮἩἯἰἶἱἷἸἾἹἿὐὖὑὗὙὟὠὦὡὧὨὮὩὯαᾶ\u00A8\u1FC1ηῆ\u1FBF\u1FCFιῖϊῗ"⟩,
   ⟨0x342, "\u1FFE\u1FDFυῦϋῧωῶ"⟩,
   ⟨0x345, "ἀᾀἁᾁἂᾂἃᾃἄᾄἅᾅἆᾆἇᾇἈᾈἉᾉἊᾊἋᾋἌᾌἍᾍἎᾎἏᾏἠᾐἡᾑἢᾒἣᾓἤᾔἥᾕἦᾖἧᾗἨᾘἩᾙἪᾚἫᾛἬᾜἭᾝἮᾞἯᾟὠᾠὡᾡὢᾢὣᾣὤᾤὥᾥὦᾦὧᾧ"⟩,
   ⟨0x345, "ὨᾨὩᾩὪᾪὫᾫὬᾬὭᾭὮᾮὯᾯὰᾲαᾳάᾴᾶᾷΑᾼὴῂηῃήῄῆῇΗῌὼῲωῳώῴῶῷΩῼ"⟩, ⟨0x653, "\u0627\u0622"⟩,
   ⟨0x654, "\u0627\u0623\u0648\u0624\u064A\u0626\u06D5\u06C0\u06C1\u06C2\u06D2\u06D3"⟩,
   ⟨0x655, "\u0627\u0625"⟩, ⟨0x93C, "नऩरऱळऴ"⟩, ⟨0x9BE, "\u09C7\u09CB"⟩, ⟨0x9D7, "\u09C7\u09CC"⟩,
   ⟨0xB3E, "\u0B47\u0B4B"⟩, ⟨0xB56, "\u0B47\u0B48"⟩, ⟨0xB57, "\u0B47\u0B4C"⟩,
   ⟨0xBBE, "\u0BC6\u0BCA\u0BC7\u0BCB"⟩, ⟨0xBD7, "ஒஔ\u0BC6\u0BCC"⟩, ⟨0xC56, "\u0C46\u0C48"⟩,
   ⟨0xCC2, "\u0CC6\u0CCA"⟩, ⟨0xCD5, "\u0CBF\u0CC0\u0CC6\u0CC7\u0CCA\u0CCB"⟩,
   ⟨0xCD6, "\u0CC6\u0CC8"⟩, ⟨0xD3E, "\u0D46\u0D4A\u0D47\u0D4B"⟩, ⟨0xD57, "\u0D46\u0D4C"⟩,
   ⟨0xDCA, "\u0DD9\u0DDA\u0DDC\u0DDD"⟩, ⟨0xDCF, "\u0DD9\u0DDC"⟩, ⟨0xDDF, "\u0DD9\u0DDE"⟩,
   ⟨0x102E, "ဥဦ"⟩,
   ⟨0x1B35, "ᬅᬆᬇᬈᬉᬊᬋᬌᬍᬎᬑᬒ\u1B3A\u1B3B\u1B3C\u1B3D\u1B3E\u1B40\u1B3F\u1B41\u1B42\u1B43"⟩,
   ⟨0x3099, "かがきぎくぐけげこごさざしじすずせぜそぞただちぢつづてでとどはばひびふぶへべほぼうゔ\u309D\u309Eカガキギクグケゲコゴサザシジスズセゼソゾタダチヂツヅ"⟩,
   ⟨0x3099, "テデトドハバヒビフブヘベホボウヴワヷヰヸヱヹヲヺ\u30FD\u30FE"⟩, ⟨0x309A, "はぱひぴふぷへぺほぽハパヒピフプヘペホポ"⟩,
   ⟨0x110BA, "𑂙𑂚𑂛𑂜𑂥𑂫"⟩, ⟨0x11127, "𑄱𑄮𑄲𑄯"⟩, ⟨0x1133E, "𑍇𑍋"⟩, ⟨0x11357, "𑍇𑍌"⟩, ⟨0x113B8, "𑏅𑎸"⟩,
   ⟨0x113BB, "𑎄𑎅"⟩, ⟨0x113C2, "𑎋𑎎𑏅𑏂"⟩, ⟨0x113C9, "𑎂𑎃𑎐𑎑𑏅𑏉"⟩, ⟨0x114B0, "𑒹𑒼"⟩, ⟨0x114BA, "𑒹𑒻"⟩,
   ⟨0x114BD, "𑒹𑒾"⟩, ⟨0x115AF, "𑖸𑖺𑖹𑖻"⟩, ⟨0x11930, "𑤵𑤸"⟩, ⟨0x1611E, "𖄡𖄞"⟩, ⟨0x1611F, "𖄦𖄩𖄤𖄡𖄦𖄢𖄧"⟩,
   ⟨0x16120, "𖄨𖄡𖄨"⟩, ⟨0x16129, "𖄡𖄩"⟩, ⟨0x16D67, "𖵨𖵧𖵣𖵩𖵩𖵪"⟩]

-- ================================================== syllables of letters

def firstSyllable : Nat := 0xAC00

/-- The number of final letters, none among them. -/
def finals : Nat := 28

/-- The syllable of two characters: two letters, or an open syllable and a
final letter. -/
def syllable? (a b : Nat) : Option Nat :=
  if 0x1100 ≤ a ∧ a < 0x1113 ∧ 0x1161 ≤ b ∧ b < 0x1176 then
    some (firstSyllable + ((a - 0x1100) * 21 + (b - 0x1161)) * finals)
  else if firstSyllable ≤ a ∧ a < 0xD7A4 ∧ (a - firstSyllable) % finals = 0 ∧
      0x11A8 ≤ b ∧ b < 0x11A7 + finals then some (a + (b - 0x11A7))
  else none

/-- The letters of a syllable. -/
def letters? (n : Nat) : Option (List Nat) :=
  if firstSyllable ≤ n ∧ n < 0xD7A4 then
    let i := n - firstSyllable
    let open_ := [0x1100 + i / finals / 21, 0x1161 + i / finals % 21]
    some (if i % finals = 0 then open_ else open_ ++ [0x11A7 + i % finals])
  else none

-- ======================================================== joining, parting

/-- The character of a pair whose other character is given, before or behind
it. -/
def partner? (without : Bool) (c : Char) : List Char → Option Char
  | a :: b :: rest =>
    if without ∧ c = b then some a
    else if ¬without ∧ c = a then some b
    else partner? without c rest
  | _ => none

/-- The character that two make together. -/
def join? (a b : Char) : Option Char :=
  match syllable? a.toNat b.toNat with
  | some n => some (Char.ofNat n)
  | none => (joinedPairs.filter (·.second == b.toNat)).findSome? (partner? false a ·.pairs.toList)

/-- The two characters that one is made of. -/
def part? (c : Char) : Option (Char × Char) :=
  joinedPairs.findSome? fun joined =>
    (partner? true c joined.pairs.toList).map (·, Char.ofNat joined.second)

/-- A character taken apart. No character has more than `depth` parts behind
the first one. -/
def apart : Nat → Char → List Char
  | 0, c => [c]
  | depth + 1, c =>
    match part? c with
    | some (a, b) => apart depth a ++ [b]
    | none => ((letters? c.toNat).map (·.map Char.ofNat)).getD [c]

/-- Puts a mark before the marks of higher order at the end of a text; the
text comes last character first. -/
def settle (c : Char) : List Char → List Char
  | [] => [c]
  | d :: rest => if 0 < order c ∧ order c < order d then d :: settle c rest else c :: d :: rest

/-- A text taken apart, marks in order. -/
def decomposed (text : List Char) : List Char :=
  ((text.flatMap (apart 3)).foldl (fun done c => settle c done) []).reverse

/-- Joins to a character what follows and can be joined; `marks` are those in
between that stay, the last one first. A character can be joined if nothing
of its own order or of order zero stands between. -/
def joinFrom (start : Char) (marks : List Char) : List Char → List Char
  | [] => start :: marks.reverse
  | c :: rest =>
    let near := match marks with
      | [] => true
      | last :: _ => order last < order c
    match if near then join? start c else none with
    | some joined => joinFrom joined marks rest
    | none =>
      if order c = 0 then start :: marks.reverse ++ joinFrom c [] rest
      else joinFrom start (c :: marks) rest

/-- A text in its shortest form. -/
def composed (text : List Char) : List Char :=
  let all := decomposed text
  let marks := all.takeWhile fun c => 0 < order c
  match all.dropWhile fun c => 0 < order c with
  | [] => marks
  | start :: rest => marks ++ joinFrom start [] rest

end ReceiptPrinter.Text
