import DataAccess.Unicode.Case
import DataAccess.Unicode.Space
import DataAccess.Unicode.Digit
import DataAccess.Unicode.Printable
import DataAccess.Unicode.Word
/-!
# 文字列の大文字と小文字

文字列を大文字・小文字・タイトル形などに写す操作と、文字列の性質の判定。どれも一文字ずつ表の写しを
使い、文字の写しを繋ぐ。前後の文字で写しが変わるのは次の二つだけ:

* 大文字のシグマ `Σ` の小文字は、語末なら `ς`、そうでなければ `σ`。語末とは、前に（大文字小文字を
  無視する文字を飛ばして）大文字小文字を持つ文字があり、後に（同じく飛ばして）ないこと。
* タイトル形は、直前の文字が大文字小文字を持てば小文字に、そうでなければタイトル文字に写す。

写しは元の文字の並びを読んで決め、写した結果は読まない。そのため文字を前から読み、読み終えた文字を
逆順に持って進む（`before` の先頭が直前の文字）。
-/

namespace DataAccess

namespace Unicode

/-- 並びの先頭から大文字小文字を無視する文字を飛ばし、最初の文字が大文字小文字を持つか。 -/
def nextIsCased (cs : List Char) : Bool :=
  match cs.dropWhile isCaseIgnorable with
  | c :: _ => isCased c
  | [] => false

/-- 大文字のシグマが語末にあるか（`before` は前の文字を逆順に、`after` は後の文字）。 -/
def finalSigma (before after : List Char) : Bool :=
  nextIsCased before && !nextIsCased after

/-- 前後の文字を見た小文字への写し。大文字のシグマだけが前後で変わる。 -/
def lowerAt (before : List Char) (c : Char) (after : List Char) : List Char :=
  if c == 'Σ' then [if finalSigma before after then 'ς' else 'σ'] else toLowerFull c

/-- 文字ごとの写し `f before c after` を並びの前から順に使い、写しを繋ぐ。 -/
def mapInContext (f : List Char → Char → List Char → List Char) :
    List Char → List Char → List Char
  | _, [] => []
  | before, c :: after => f before c after ++ mapInContext f (c :: before) after

/-- 直前の文字が大文字小文字を持つか。 -/
def previousIsCased (before : List Char) : Bool :=
  match before with
  | c :: _ => isCased c
  | [] => false

/-- 文字の並びに前後を見た写しを使う。 -/
def mapText (f : List Char → Char → List Char → List Char) (s : String) : String :=
  String.ofList (mapInContext f [] s.toList)

/-- 大文字にする。 -/
def upper (s : String) : String := mapText (fun _ c _ => toUpperFull c) s

/-- 小文字にする（語末のシグマは `ς`）。 -/
def lower (s : String) : String := mapText lowerAt s

/-- 大文字小文字を区別しない比較の形にする。 -/
def casefold (s : String) : String := mapText (fun _ c _ => toFoldedFull c) s

/-- 語の頭をタイトル文字に、語の続きを小文字にする。語は大文字小文字を持つ文字の続き。 -/
def title (s : String) : String :=
  mapText (fun before c after =>
    if previousIsCased before then lowerAt before c after else toTitleFull c) s

/-- 最初の文字をタイトル文字に、ほかを小文字にする。 -/
def capitalize (s : String) : String :=
  mapText (fun before c after => if before.isEmpty then toTitleFull c else lowerAt before c after) s

/-- 大文字を小文字に、小文字を大文字にする。タイトル文字などほかの文字は残す。 -/
def swapcase (s : String) : String :=
  mapText (fun before c after =>
    if isUppercase c then lowerAt before c after else if isLowercase c then toUpperFull c else [c]) s

/-- 大文字の文字列か: 小文字もタイトル文字もなく、大文字が一つはある。 -/
def isUpperText (s : String) : Bool :=
  let cs := s.toList
  !(cs.any fun c => isLowercase c || isTitlecase c) && cs.any isUppercase

/-- 小文字の文字列か: 大文字もタイトル文字もなく、小文字が一つはある。 -/
def isLowerText (s : String) : Bool :=
  let cs := s.toList
  !(cs.any fun c => isUppercase c || isTitlecase c) && cs.any isLowercase

/-- タイトル形の文字列か。`previous` は直前の文字が大文字小文字を持つか、`seen` は大文字小文字を
持つ文字を読んだか。大文字とタイトル文字は語の頭に、小文字は語の続きにだけ現れる。 -/
def isTitleChars (previous seen : Bool) : List Char → Bool
  | [] => seen
  | c :: cs =>
    if isUppercase c || isTitlecase c then !previous && isTitleChars true true cs
    else if isLowercase c then previous && isTitleChars true true cs
    else isTitleChars false seen cs

/-- タイトル形の文字列か: 大文字小文字を持つ文字が一つはあり、語の頭だけが大文字かタイトル文字。 -/
def isTitleText (s : String) : Bool := isTitleChars false false s.toList

/-- 空でなく、どの文字も `p` を満たすか。 -/
def allNonEmpty (p : Char → Bool) (s : String) : Bool := !s.isEmpty && s.toList.all p

/-- 英数字か: 語の文字のうち下線でないもの。 -/
def isAlnum (c : Char) : Bool := isWordChar c && c != '_'

end Unicode

end DataAccess
