import Citations.Text.Blank
import Citations.Text.Cluster
import Citations.Text.Fold
import Citations.Text.Letter

/-!
# Characters in a search

A search compares characters after their case and their accents have been taken away, as far as
the query leaves it open, and rewards matches where a word begins. What a character is, a
blank, a delimiter, a letter or a digit, decides where that is.
-/
namespace Citations.Search

/-- The letters that accents and other strokes are taken away to, with the characters that they
are taken from. -/
def plainLetters : List (Char × String) := [
  ('A', "ÀÁÂÃÄÅĀĂĄǍǞǠǺȀȂȦȺᴀḀẠẢẤẦẨẪẬẮẰẲẴẶ"),
  ('B', "ƁƂɃʙḂḄḆ"),
  ('C', "ÇĆĈĊČƇȻᴄḈ"),
  ('D', "ĎĐƊƋǅǲᴅḊḌḎḐḒ"),
  ('E', "ÈÉÊËĒĔĖĘĚƎƐȄȆȨɆᴇḔḖḘḚḜẸẺẼẾỀỂỄỆ"),
  ('F', "ƑḞ"),
  ('G', "ĜĞĠĢƓǤǦǴɢḠ"),
  ('H', "ĤĦȞʜḢḤḦḨḪ"),
  ('I', "ÌÍÎÏĨĪĬĮİƗǏȈȊɪḬḮỈỊ"),
  ('J', "ĴɈᴊ"),
  ('K', "ĶƘǨᴋḰḲḴ"),
  ('L', "ĹĻĽĿŁǈȽʟḶḸḺḼ"),
  ('M', "ƜᴍḾṀṂ"),
  ('N', "ÑŃŅŇƝǋǸȠɴᴎṄṆṈṊ"),
  ('O', "ÒÓÔÕÖØŌŎŐƆƟƠǑǪǬǾȌȎȪȬȮȰᴏṌṎṐṒỌỎỐỒỔỖỘỚỜỞỠỢ"),
  ('P', "ƤᴘṔṖ"),
  ('R', "ŔŖŘȐȒɌʀᴙᴚṘṚṜṞ"),
  ('S', "ŚŜŞŠȘṠṢṤṦṨẞ"),
  ('T', "ŢŤŦƬƮȚȾᴛṪṬṮṰ"),
  ('U', "ÙÚÛÜŨŪŬŮŰŲƯǓǕǗǙǛȔȖᴜṲṴṶṸṺỤỦỨỪỬỮỰ"),
  ('V', "ƲɅᴠṼṾ"),
  ('W', "ŴᴡẀẂẄẆẈ"),
  ('X', "ẊẌ"),
  ('Y', "ÝŶŸƳȲɎʏẎỲỴỶỸỾ"),
  ('Z', "ŹŻŽƵȤᴢẐẒẔ"),
  ('a', "àáâãäåāăąǎǟǡǻȁȃȧɐ\u0363ᶏḁẚạảấầẩẫậắằẳẵặₐ"),
  ('b', "ƀƃɓᵬᶀ\u1de8ḃḅḇ"),
  ('c', "çćĉċčƈȼɕ\u0368ḉↄ"),
  ('d', "ďđƌȡɖɗ\u0369ᵭᶁᶑḋḍḏḑḓ"),
  ('e', "èéêëēĕėęěǝȅȇȩɇɘɛɜɝɞʚ\u0364ᴈᶒᶓᶔḕḗḙḛḝẹẻẽếềểễệₑ"),
  ('f', "ƒᵮᶂ\u1debḟ"),
  ('g', "ĝğġģǥǧǵɠɡᵷᶃ\u1ddaḡ"),
  ('h', "ĥħȟɥɦʮʯ\u036aḣḥḧḩḫẖₕ"),
  ('i', "ìíîïĩīĭįıǐȉȋɨ\u0365ᴉᵢᶖḭḯỉịⁱ"),
  ('j', "ĵǰȷɉɟʄʝ"),
  ('k', "ķƙǩʞᶄ\u1ddcḱḳḵₖ"),
  ('l', "ĺļľŀłƚȴɫɬɭᶅ\u1dddḷḹḻḽₗ"),
  ('m', "ɯɰɱ\u036bᴟᵯᶆḿṁṃₘ"),
  ('n', "ñńņňƞǹȵɲɳᵰᶇ\u1de0ṅṇṉṋⁿₙ"),
  ('o', "òóôõöøōŏőơǒǫǭǿȍȏȫȭȯȱɔ\u0366ᴑᴒᴓᶗṍṏṑṓọỏốồổỗộớờởỡợₒ"),
  ('p', "ƥᵱᵽᶈ\u1deeṕṗₚ"),
  ('q', "ɋʠ"),
  ('r', "ŕŗřȑȓɍɹɺɻɼɽɾɿ\u036cᵣᵲᵳᶉṙṛṝṟ"),
  ('s', "ßśŝşšſșȿʂᵴᶊ\u1de4ṡṣṥṧṩẛẜẝₛ"),
  ('t', "ţťŧƫƭțȶʇʈ\u036dᵵṫṭṯṱẗₜ"),
  ('u', "ùúûüũūŭůűųưǔǖǘǚǜȕȗ\u0367ᴝᵤᶙṳṵṷṹṻụủứừửữự"),
  ('v', "ʋʌ\u036eᵥᶌṽṿ"),
  ('w', "ŵʍ\u1df1ẁẃẅẇẉẘ"),
  ('x', "\u036fᶍẋẍₓ"),
  ('y', "ýÿŷƴȳɏʎẏẙỳỵỷỹỿ"),
  ('z', "źżžƶȥɀʐʑᵶᶎ\u1de6ẑẓẕ")]

/-- A character without its accents and strokes. -/
def plain (c : Char) : Char :=
  if c.toNat < 128 then c
  else ((plainLetters.find? fun letter => letter.2.toList.contains c).map (·.1)).getD c

/-- What a character is for a search. -/
inductive CharKind where
  /-- White space. -/
  | blank
  /-- Punctuation and the like. -/
  | symbol
  /-- Punctuation that separates. -/
  | delimiter
  /-- A small letter. -/
  | small
  /-- A capital letter. -/
  | capital
  /-- A letter without case. -/
  | letter
  /-- A digit or another number. -/
  | number
  deriving DecidableEq, Repr

/-- White space of ASCII; the vertical tab does not count. -/
def isAsciiBlank (c : Char) : Bool :=
  c == ' ' || c == '\t' || c == '\n' || c == '\r' || c.toNat == 0xC

/-- What a character is. -/
def kindOf (c : Char) : CharKind :=
  if c.toNat < 128 then
    if c.isLower then .small
    else if c.isUpper then .capital
    else if c.isDigit then .number
    else if isAsciiBlank c then .blank
    else if "/,:;|".toList.contains c then .delimiter
    else .symbol
  else if Text.isSmall c then .small
  else if Text.isFolded c then .capital
  else if Text.isNumber c then .number
  else if Text.isLetter c then .letter
  else if Text.isBlank c then .blank
  else .symbol

/-- What makes no difference in a comparison. -/
structure Leniency where
  /-- Case makes no difference. -/
  ignoresCase : Bool
  /-- Accents make no difference. -/
  ignoresAccents : Bool
  deriving DecidableEq, Repr

/-- The form in which a character is compared. -/
def Leniency.form (leniency : Leniency) (c : Char) : Char :=
  let bare := if leniency.ignoresAccents then plain c else c
  if leniency.ignoresCase then Text.foldChar bare else bare

/-- The form in which a character is compared while a match is scored: a small letter that folds
to another one stays unless accents are ignored. -/
def Leniency.scoredForm (leniency : Leniency) (c : Char) : Char :=
  if c.toNat < 128 || kindOf c = .capital || leniency.ignoresAccents then leniency.form c else c

/-- The reward for a match at a character of a kind, after one of a kind. -/
def bonus (before here : CharKind) : Nat :=
  let isWordChar := here = .small || here = .capital || here = .letter || here = .number
  if isWordChar && before = .blank then 10
  else if isWordChar && before = .delimiter then 9
  else if isWordChar && before = .symbol then 8
  else if (before = .small && here = .capital) || (before ≠ .number && here = .number) then 5
  else if here = .blank then 10
  else if here = .symbol then 8
  else 0

/-- A text as a search sees it. -/
structure Subject where
  /-- Whether it is plain ASCII, one cluster for each character. -/
  isAscii : Bool
  /-- The first characters of its clusters. -/
  chars : Text
  deriving DecidableEq, Repr

/-- A text as a search sees it. -/
def Subject.ofText (text : Text) : Subject :=
  if text.all (·.toNat < 128) && !Text.contains ['\r', '\n'] text then ⟨true, text⟩
  else ⟨false, Text.clusterHeads text⟩

end Citations.Search
