/-!
# 大文字と小文字

文字の大文字・小文字・タイトル文字への写しと、大文字小文字の性質（Unicode 14.0 の文字データベースから
作った表）。

* 写しが一文字になる文字は、刻みの等しい符号位置の並びごとにまとめる: `(始め, 終わり, 刻み, 差)` は
  始めから終わりまで刻みおきの文字を、符号位置に差を足した文字へ写す。
* 写しが複数の文字になる文字（`ß` の大文字 `SS` など）は別の表に持つ。
* 性質（小文字、大文字、タイトル文字、大文字小文字を無視する文字）は、刻み 1 か 2 の
  符号位置の並び `(始め, 終わり, 刻み)` の表。
  大文字小文字を持つ文字は、小文字・大文字・タイトル文字のどれか。

表は十六進の数を `,` で区切った項目を空白で並べた字面で書き、読んで並びにする。
どの表も昇順で、写しの表にない文字はその文字自身に写る。
-/

namespace DataAccess

namespace Unicode

/-- 一文字への写しの並び: 始め、終わり、刻み、差。 -/
abbrev CaseRun := Nat × Nat × Nat × Int

/-- 刻みおきの符号位置の並び: 始め、終わり、刻み。 -/
abbrev StepRange := Nat × Nat × Nat

/-- 十六進の数字の並びの値（十六進の数字でない文字は 0 と読む）。 -/
def hexValue (s : String) : Nat :=
  s.toList.foldl (fun n c =>
    let d := if '0' ≤ c ∧ c ≤ '9' then c.toNat - '0'.toNat
      else if 'a' ≤ c ∧ c ≤ 'f' then c.toNat - 'a'.toNat + 10 else 0
    16 * n + d) 0

/-- 符号付きの十六進の数。 -/
def signedHex (s : String) : Int :=
  match s.toList with
  | '-' :: ds => -((hexValue (String.ofList ds) : Nat) : Int)
  | _ => hexValue s

/-- 表の字面の項目（空白で区切る）を、`,` で区切った欄の並びにする。 -/
def tableFields (text : String) : List (List String) :=
  ((text.splitOn " ").filter (· ≠ "")).map (·.splitOn ",")

/-- 一文字への写しの並びの表を読む。 -/
def readRuns (text : String) : List CaseRun :=
  (tableFields text).filterMap fun fs => match fs with
    | [lo, hi, step, delta] => some (hexValue lo, hexValue hi, hexValue step, signedHex delta)
    | _ => none

/-- 複数の文字への写しの表を読む（項目は元の文字と写し先の文字）。 -/
def readMulti (text : String) : List (Nat × List Nat) :=
  (tableFields text).filterMap fun fs => match fs with
    | c :: target => some (hexValue c, target.map hexValue)
    | [] => none

/-- 刻みおきの並びの表を読む。 -/
def readSteps (text : String) : List StepRange :=
  (tableFields text).filterMap fun fs => match fs with
    | [lo, hi, step] => some (hexValue lo, hexValue hi, hexValue step)
    | _ => none

/-- 写しの並びから、文字の写し先の符号位置を引く。 -/
def runTarget? (runs : List CaseRun) (n : Nat) : Option Nat :=
  (runs.find? fun (lo, hi, step, _) => lo ≤ n && n ≤ hi && (n - lo) % step == 0).map
    fun (_, _, _, delta) => ((n : Int) + delta).toNat

/-- 写しの表（一文字への並びと、複数の文字への写し）で文字を写す。 -/
def mapWith (runs : List CaseRun) (multi : List (Nat × List Nat)) (c : Char) : List Char :=
  match multi.find? (·.1 == c.toNat) with
  | some (_, ns) => ns.map Char.ofNat
  | none =>
    match runTarget? runs c.toNat with
    | some n => [Char.ofNat n]
    | none => [c]

/-- 刻みおきの並びの表に入るか。 -/
def inSteps (rs : List StepRange) (c : Char) : Bool :=
  rs.any fun (lo, hi, step) => lo ≤ c.toNat && c.toNat ≤ hi && (c.toNat - lo) % step == 0

/-- 大文字への一文字の写しの並び。 -/
def upperRuns : List CaseRun := readRuns (
  "61,7a,1,-20 b5,b5,1,2e7 e0,f6,1,-20 f8,fe,1,-20 ff,ff,1,79 101,12f,2,-1 131,131,1,-e8 " ++
  "133,137,2,-1 13a,148,2,-1 14b,177,2,-1 17a,17e,2,-1 17f,17f,1,-12c 180,180,1,c3 " ++
  "183,185,2,-1 188,188,1,-1 18c,18c,1,-1 192,192,1,-1 195,195,1,61 199,199,1,-1 " ++
  "19a,19a,1,a3 19e,19e,1,82 1a1,1a5,2,-1 1a8,1a8,1,-1 1ad,1ad,1,-1 1b0,1b0,1,-1 " ++
  "1b4,1b6,2,-1 1b9,1b9,1,-1 1bd,1bd,1,-1 1bf,1bf,1,38 1c5,1c5,1,-1 1c6,1c6,1,-2 " ++
  "1c8,1c8,1,-1 1c9,1c9,1,-2 1cb,1cb,1,-1 1cc,1cc,1,-2 1ce,1dc,2,-1 1dd,1dd,1,-4f " ++
  "1df,1ef,2,-1 1f2,1f2,1,-1 1f3,1f3,1,-2 1f5,1f5,1,-1 1f9,21f,2,-1 223,233,2,-1 " ++
  "23c,23c,1,-1 23f,240,1,2a3f 242,242,1,-1 247,24f,2,-1 250,250,1,2a1f 251,251,1,2a1c " ++
  "252,252,1,2a1e 253,253,1,-d2 254,254,1,-ce 256,257,1,-cd 259,259,1,-ca 25b,25b,1,-cb " ++
  "25c,25c,1,a54f 260,260,1,-cd 261,261,1,a54b 263,263,1,-cf 265,265,1,a528 266,266,1,a544 " ++
  "268,268,1,-d1 269,269,1,-d3 26a,26a,1,a544 26b,26b,1,29f7 26c,26c,1,a541 26f,26f,1,-d3 " ++
  "271,271,1,29fd 272,272,1,-d5 275,275,1,-d6 27d,27d,1,29e7 280,280,1,-da 282,282,1,a543 " ++
  "283,283,1,-da 287,287,1,a52a 288,288,1,-da 289,289,1,-45 28a,28b,1,-d9 28c,28c,1,-47 " ++
  "292,292,1,-db 29d,29d,1,a515 29e,29e,1,a512 345,345,1,54 371,373,2,-1 377,377,1,-1 " ++
  "37b,37d,1,82 3ac,3ac,1,-26 3ad,3af,1,-25 3b1,3c1,1,-20 3c2,3c2,1,-1f 3c3,3cb,1,-20 " ++
  "3cc,3cc,1,-40 3cd,3ce,1,-3f 3d0,3d0,1,-3e 3d1,3d1,1,-39 3d5,3d5,1,-2f 3d6,3d6,1,-36 " ++
  "3d7,3d7,1,-8 3d9,3ef,2,-1 3f0,3f0,1,-56 3f1,3f1,1,-50 3f2,3f2,1,7 3f3,3f3,1,-74 " ++
  "3f5,3f5,1,-60 3f8,3f8,1,-1 3fb,3fb,1,-1 430,44f,1,-20 450,45f,1,-50 461,481,2,-1 " ++
  "48b,4bf,2,-1 4c2,4ce,2,-1 4cf,4cf,1,-f 4d1,52f,2,-1 561,586,1,-30 10d0,10fa,1,bc0 " ++
  "10fd,10ff,1,bc0 13f8,13fd,1,-8 1c80,1c80,1,-186e 1c81,1c81,1,-186d 1c82,1c82,1,-1864 " ++
  "1c83,1c84,1,-1862 1c85,1c85,1,-1863 1c86,1c86,1,-185c 1c87,1c87,1,-1825 " ++
  "1c88,1c88,1,89c2 1d79,1d79,1,8a04 1d7d,1d7d,1,ee6 1d8e,1d8e,1,8a38 1e01,1e95,2,-1 " ++
  "1e9b,1e9b,1,-3b 1ea1,1eff,2,-1 1f00,1f07,1,8 1f10,1f15,1,8 1f20,1f27,1,8 1f30,1f37,1,8 " ++
  "1f40,1f45,1,8 1f51,1f57,2,8 1f60,1f67,1,8 1f70,1f71,1,4a 1f72,1f75,1,56 1f76,1f77,1,64 " ++
  "1f78,1f79,1,80 1f7a,1f7b,1,70 1f7c,1f7d,1,7e 1fb0,1fb1,1,8 1fbe,1fbe,1,-1c25 " ++
  "1fd0,1fd1,1,8 1fe0,1fe1,1,8 1fe5,1fe5,1,7 214e,214e,1,-1c 2170,217f,1,-10 " ++
  "2184,2184,1,-1 24d0,24e9,1,-1a 2c30,2c5f,1,-30 2c61,2c61,1,-1 2c65,2c65,1,-2a2b " ++
  "2c66,2c66,1,-2a28 2c68,2c6c,2,-1 2c73,2c73,1,-1 2c76,2c76,1,-1 2c81,2ce3,2,-1 " ++
  "2cec,2cee,2,-1 2cf3,2cf3,1,-1 2d00,2d25,1,-1c60 2d27,2d27,1,-1c60 2d2d,2d2d,1,-1c60 " ++
  "a641,a66d,2,-1 a681,a69b,2,-1 a723,a72f,2,-1 a733,a76f,2,-1 a77a,a77c,2,-1 " ++
  "a77f,a787,2,-1 a78c,a78c,1,-1 a791,a793,2,-1 a794,a794,1,30 a797,a7a9,2,-1 " ++
  "a7b5,a7c3,2,-1 a7c8,a7ca,2,-1 a7d1,a7d1,1,-1 a7d7,a7d9,2,-1 a7f6,a7f6,1,-1 " ++
  "ab53,ab53,1,-3a0 ab70,abbf,1,-97d0 ff41,ff5a,1,-20 10428,1044f,1,-28 104d8,104fb,1,-28 " ++
  "10597,105a1,1,-27 105a3,105b1,1,-27 105b3,105b9,1,-27 105bb,105bc,1,-27 " ++
  "10cc0,10cf2,1,-40 118c0,118df,1,-20 16e60,16e7f,1,-20 1e922,1e943,1,-22")

/-- 大文字への写しが複数の文字になる文字。 -/
def upperMulti : List (Nat × List Nat) := readMulti (
  "df,53,53 149,2bc,4e 1f0,4a,30c 390,399,308,301 3b0,3a5,308,301 587,535,552 1e96,48,331 " ++
  "1e97,54,308 1e98,57,30a 1e99,59,30a 1e9a,41,2be 1f50,3a5,313 1f52,3a5,313,300 " ++
  "1f54,3a5,313,301 1f56,3a5,313,342 1f80,1f08,399 1f81,1f09,399 1f82,1f0a,399 " ++
  "1f83,1f0b,399 1f84,1f0c,399 1f85,1f0d,399 1f86,1f0e,399 1f87,1f0f,399 1f88,1f08,399 " ++
  "1f89,1f09,399 1f8a,1f0a,399 1f8b,1f0b,399 1f8c,1f0c,399 1f8d,1f0d,399 1f8e,1f0e,399 " ++
  "1f8f,1f0f,399 1f90,1f28,399 1f91,1f29,399 1f92,1f2a,399 1f93,1f2b,399 1f94,1f2c,399 " ++
  "1f95,1f2d,399 1f96,1f2e,399 1f97,1f2f,399 1f98,1f28,399 1f99,1f29,399 1f9a,1f2a,399 " ++
  "1f9b,1f2b,399 1f9c,1f2c,399 1f9d,1f2d,399 1f9e,1f2e,399 1f9f,1f2f,399 1fa0,1f68,399 " ++
  "1fa1,1f69,399 1fa2,1f6a,399 1fa3,1f6b,399 1fa4,1f6c,399 1fa5,1f6d,399 1fa6,1f6e,399 " ++
  "1fa7,1f6f,399 1fa8,1f68,399 1fa9,1f69,399 1faa,1f6a,399 1fab,1f6b,399 1fac,1f6c,399 " ++
  "1fad,1f6d,399 1fae,1f6e,399 1faf,1f6f,399 1fb2,1fba,399 1fb3,391,399 1fb4,386,399 " ++
  "1fb6,391,342 1fb7,391,342,399 1fbc,391,399 1fc2,1fca,399 1fc3,397,399 1fc4,389,399 " ++
  "1fc6,397,342 1fc7,397,342,399 1fcc,397,399 1fd2,399,308,300 1fd3,399,308,301 " ++
  "1fd6,399,342 1fd7,399,308,342 1fe2,3a5,308,300 1fe3,3a5,308,301 1fe4,3a1,313 " ++
  "1fe6,3a5,342 1fe7,3a5,308,342 1ff2,1ffa,399 1ff3,3a9,399 1ff4,38f,399 1ff6,3a9,342 " ++
  "1ff7,3a9,342,399 1ffc,3a9,399 fb00,46,46 fb01,46,49 fb02,46,4c fb03,46,46,49 " ++
  "fb04,46,46,4c fb05,53,54 fb06,53,54 fb13,544,546 fb14,544,535 fb15,544,53b fb16,54e,546 " ++
  "fb17,544,53d")

/-- 小文字への一文字の写しの並び。 -/
def lowerRuns : List CaseRun := readRuns (
  "41,5a,1,20 c0,d6,1,20 d8,de,1,20 100,12e,2,1 132,136,2,1 139,147,2,1 14a,176,2,1 " ++
  "178,178,1,-79 179,17d,2,1 181,181,1,d2 182,184,2,1 186,186,1,ce 187,187,1,1 " ++
  "189,18a,1,cd 18b,18b,1,1 18e,18e,1,4f 18f,18f,1,ca 190,190,1,cb 191,191,1,1 " ++
  "193,193,1,cd 194,194,1,cf 196,196,1,d3 197,197,1,d1 198,198,1,1 19c,19c,1,d3 " ++
  "19d,19d,1,d5 19f,19f,1,d6 1a0,1a4,2,1 1a6,1a6,1,da 1a7,1a7,1,1 1a9,1a9,1,da 1ac,1ac,1,1 " ++
  "1ae,1ae,1,da 1af,1af,1,1 1b1,1b2,1,d9 1b3,1b5,2,1 1b7,1b7,1,db 1b8,1b8,1,1 1bc,1bc,1,1 " ++
  "1c4,1c4,1,2 1c5,1c5,1,1 1c7,1c7,1,2 1c8,1c8,1,1 1ca,1ca,1,2 1cb,1db,2,1 1de,1ee,2,1 " ++
  "1f1,1f1,1,2 1f2,1f4,2,1 1f6,1f6,1,-61 1f7,1f7,1,-38 1f8,21e,2,1 220,220,1,-82 " ++
  "222,232,2,1 23a,23a,1,2a2b 23b,23b,1,1 23d,23d,1,-a3 23e,23e,1,2a28 241,241,1,1 " ++
  "243,243,1,-c3 244,244,1,45 245,245,1,47 246,24e,2,1 370,372,2,1 376,376,1,1 " ++
  "37f,37f,1,74 386,386,1,26 388,38a,1,25 38c,38c,1,40 38e,38f,1,3f 391,3a1,1,20 " ++
  "3a3,3ab,1,20 3cf,3cf,1,8 3d8,3ee,2,1 3f4,3f4,1,-3c 3f7,3f7,1,1 3f9,3f9,1,-7 3fa,3fa,1,1 " ++
  "3fd,3ff,1,-82 400,40f,1,50 410,42f,1,20 460,480,2,1 48a,4be,2,1 4c0,4c0,1,f 4c1,4cd,2,1 " ++
  "4d0,52e,2,1 531,556,1,30 10a0,10c5,1,1c60 10c7,10c7,1,1c60 10cd,10cd,1,1c60 " ++
  "13a0,13ef,1,97d0 13f0,13f5,1,8 1c90,1cba,1,-bc0 1cbd,1cbf,1,-bc0 1e00,1e94,2,1 " ++
  "1e9e,1e9e,1,-1dbf 1ea0,1efe,2,1 1f08,1f0f,1,-8 1f18,1f1d,1,-8 1f28,1f2f,1,-8 " ++
  "1f38,1f3f,1,-8 1f48,1f4d,1,-8 1f59,1f5f,2,-8 1f68,1f6f,1,-8 1f88,1f8f,1,-8 " ++
  "1f98,1f9f,1,-8 1fa8,1faf,1,-8 1fb8,1fb9,1,-8 1fba,1fbb,1,-4a 1fbc,1fbc,1,-9 " ++
  "1fc8,1fcb,1,-56 1fcc,1fcc,1,-9 1fd8,1fd9,1,-8 1fda,1fdb,1,-64 1fe8,1fe9,1,-8 " ++
  "1fea,1feb,1,-70 1fec,1fec,1,-7 1ff8,1ff9,1,-80 1ffa,1ffb,1,-7e 1ffc,1ffc,1,-9 " ++
  "2126,2126,1,-1d5d 212a,212a,1,-20bf 212b,212b,1,-2046 2132,2132,1,1c 2160,216f,1,10 " ++
  "2183,2183,1,1 24b6,24cf,1,1a 2c00,2c2f,1,30 2c60,2c60,1,1 2c62,2c62,1,-29f7 " ++
  "2c63,2c63,1,-ee6 2c64,2c64,1,-29e7 2c67,2c6b,2,1 2c6d,2c6d,1,-2a1c 2c6e,2c6e,1,-29fd " ++
  "2c6f,2c6f,1,-2a1f 2c70,2c70,1,-2a1e 2c72,2c72,1,1 2c75,2c75,1,1 2c7e,2c7f,1,-2a3f " ++
  "2c80,2ce2,2,1 2ceb,2ced,2,1 2cf2,2cf2,1,1 a640,a66c,2,1 a680,a69a,2,1 a722,a72e,2,1 " ++
  "a732,a76e,2,1 a779,a77b,2,1 a77d,a77d,1,-8a04 a77e,a786,2,1 a78b,a78b,1,1 " ++
  "a78d,a78d,1,-a528 a790,a792,2,1 a796,a7a8,2,1 a7aa,a7aa,1,-a544 a7ab,a7ab,1,-a54f " ++
  "a7ac,a7ac,1,-a54b a7ad,a7ad,1,-a541 a7ae,a7ae,1,-a544 a7b0,a7b0,1,-a512 " ++
  "a7b1,a7b1,1,-a52a a7b2,a7b2,1,-a515 a7b3,a7b3,1,3a0 a7b4,a7c2,2,1 a7c4,a7c4,1,-30 " ++
  "a7c5,a7c5,1,-a543 a7c6,a7c6,1,-8a38 a7c7,a7c9,2,1 a7d0,a7d0,1,1 a7d6,a7d8,2,1 " ++
  "a7f5,a7f5,1,1 ff21,ff3a,1,20 10400,10427,1,28 104b0,104d3,1,28 10570,1057a,1,27 " ++
  "1057c,1058a,1,27 1058c,10592,1,27 10594,10595,1,27 10c80,10cb2,1,40 118a0,118bf,1,20 " ++
  "16e40,16e5f,1,20 1e900,1e921,1,22")

/-- 小文字への写しが複数の文字になる文字。 -/
def lowerMulti : List (Nat × List Nat) := readMulti (
  "130,69,307")

/-- タイトル文字への一文字の写しの並び。 -/
def titleRuns : List CaseRun := readRuns (
  "61,7a,1,-20 b5,b5,1,2e7 e0,f6,1,-20 f8,fe,1,-20 ff,ff,1,79 101,12f,2,-1 131,131,1,-e8 " ++
  "133,137,2,-1 13a,148,2,-1 14b,177,2,-1 17a,17e,2,-1 17f,17f,1,-12c 180,180,1,c3 " ++
  "183,185,2,-1 188,188,1,-1 18c,18c,1,-1 192,192,1,-1 195,195,1,61 199,199,1,-1 " ++
  "19a,19a,1,a3 19e,19e,1,82 1a1,1a5,2,-1 1a8,1a8,1,-1 1ad,1ad,1,-1 1b0,1b0,1,-1 " ++
  "1b4,1b6,2,-1 1b9,1b9,1,-1 1bd,1bd,1,-1 1bf,1bf,1,38 1c4,1c4,1,1 1c6,1c6,1,-1 " ++
  "1c7,1c7,1,1 1c9,1c9,1,-1 1ca,1ca,1,1 1cc,1dc,2,-1 1dd,1dd,1,-4f 1df,1ef,2,-1 " ++
  "1f1,1f1,1,1 1f3,1f5,2,-1 1f9,21f,2,-1 223,233,2,-1 23c,23c,1,-1 23f,240,1,2a3f " ++
  "242,242,1,-1 247,24f,2,-1 250,250,1,2a1f 251,251,1,2a1c 252,252,1,2a1e 253,253,1,-d2 " ++
  "254,254,1,-ce 256,257,1,-cd 259,259,1,-ca 25b,25b,1,-cb 25c,25c,1,a54f 260,260,1,-cd " ++
  "261,261,1,a54b 263,263,1,-cf 265,265,1,a528 266,266,1,a544 268,268,1,-d1 269,269,1,-d3 " ++
  "26a,26a,1,a544 26b,26b,1,29f7 26c,26c,1,a541 26f,26f,1,-d3 271,271,1,29fd 272,272,1,-d5 " ++
  "275,275,1,-d6 27d,27d,1,29e7 280,280,1,-da 282,282,1,a543 283,283,1,-da 287,287,1,a52a " ++
  "288,288,1,-da 289,289,1,-45 28a,28b,1,-d9 28c,28c,1,-47 292,292,1,-db 29d,29d,1,a515 " ++
  "29e,29e,1,a512 345,345,1,54 371,373,2,-1 377,377,1,-1 37b,37d,1,82 3ac,3ac,1,-26 " ++
  "3ad,3af,1,-25 3b1,3c1,1,-20 3c2,3c2,1,-1f 3c3,3cb,1,-20 3cc,3cc,1,-40 3cd,3ce,1,-3f " ++
  "3d0,3d0,1,-3e 3d1,3d1,1,-39 3d5,3d5,1,-2f 3d6,3d6,1,-36 3d7,3d7,1,-8 3d9,3ef,2,-1 " ++
  "3f0,3f0,1,-56 3f1,3f1,1,-50 3f2,3f2,1,7 3f3,3f3,1,-74 3f5,3f5,1,-60 3f8,3f8,1,-1 " ++
  "3fb,3fb,1,-1 430,44f,1,-20 450,45f,1,-50 461,481,2,-1 48b,4bf,2,-1 4c2,4ce,2,-1 " ++
  "4cf,4cf,1,-f 4d1,52f,2,-1 561,586,1,-30 13f8,13fd,1,-8 1c80,1c80,1,-186e " ++
  "1c81,1c81,1,-186d 1c82,1c82,1,-1864 1c83,1c84,1,-1862 1c85,1c85,1,-1863 " ++
  "1c86,1c86,1,-185c 1c87,1c87,1,-1825 1c88,1c88,1,89c2 1d79,1d79,1,8a04 1d7d,1d7d,1,ee6 " ++
  "1d8e,1d8e,1,8a38 1e01,1e95,2,-1 1e9b,1e9b,1,-3b 1ea1,1eff,2,-1 1f00,1f07,1,8 " ++
  "1f10,1f15,1,8 1f20,1f27,1,8 1f30,1f37,1,8 1f40,1f45,1,8 1f51,1f57,2,8 1f60,1f67,1,8 " ++
  "1f70,1f71,1,4a 1f72,1f75,1,56 1f76,1f77,1,64 1f78,1f79,1,80 1f7a,1f7b,1,70 " ++
  "1f7c,1f7d,1,7e 1f80,1f87,1,8 1f90,1f97,1,8 1fa0,1fa7,1,8 1fb0,1fb1,1,8 1fb3,1fb3,1,9 " ++
  "1fbe,1fbe,1,-1c25 1fc3,1fc3,1,9 1fd0,1fd1,1,8 1fe0,1fe1,1,8 1fe5,1fe5,1,7 1ff3,1ff3,1,9 " ++
  "214e,214e,1,-1c 2170,217f,1,-10 2184,2184,1,-1 24d0,24e9,1,-1a 2c30,2c5f,1,-30 " ++
  "2c61,2c61,1,-1 2c65,2c65,1,-2a2b 2c66,2c66,1,-2a28 2c68,2c6c,2,-1 2c73,2c73,1,-1 " ++
  "2c76,2c76,1,-1 2c81,2ce3,2,-1 2cec,2cee,2,-1 2cf3,2cf3,1,-1 2d00,2d25,1,-1c60 " ++
  "2d27,2d27,1,-1c60 2d2d,2d2d,1,-1c60 a641,a66d,2,-1 a681,a69b,2,-1 a723,a72f,2,-1 " ++
  "a733,a76f,2,-1 a77a,a77c,2,-1 a77f,a787,2,-1 a78c,a78c,1,-1 a791,a793,2,-1 " ++
  "a794,a794,1,30 a797,a7a9,2,-1 a7b5,a7c3,2,-1 a7c8,a7ca,2,-1 a7d1,a7d1,1,-1 " ++
  "a7d7,a7d9,2,-1 a7f6,a7f6,1,-1 ab53,ab53,1,-3a0 ab70,abbf,1,-97d0 ff41,ff5a,1,-20 " ++
  "10428,1044f,1,-28 104d8,104fb,1,-28 10597,105a1,1,-27 105a3,105b1,1,-27 " ++
  "105b3,105b9,1,-27 105bb,105bc,1,-27 10cc0,10cf2,1,-40 118c0,118df,1,-20 " ++
  "16e60,16e7f,1,-20 1e922,1e943,1,-22")

/-- タイトル文字への写しが複数の文字になる文字。 -/
def titleMulti : List (Nat × List Nat) := readMulti (
  "df,53,73 149,2bc,4e 1f0,4a,30c 390,399,308,301 3b0,3a5,308,301 587,535,582 1e96,48,331 " ++
  "1e97,54,308 1e98,57,30a 1e99,59,30a 1e9a,41,2be 1f50,3a5,313 1f52,3a5,313,300 " ++
  "1f54,3a5,313,301 1f56,3a5,313,342 1fb2,1fba,345 1fb4,386,345 1fb6,391,342 " ++
  "1fb7,391,342,345 1fc2,1fca,345 1fc4,389,345 1fc6,397,342 1fc7,397,342,345 " ++
  "1fd2,399,308,300 1fd3,399,308,301 1fd6,399,342 1fd7,399,308,342 1fe2,3a5,308,300 " ++
  "1fe3,3a5,308,301 1fe4,3a1,313 1fe6,3a5,342 1fe7,3a5,308,342 1ff2,1ffa,345 1ff4,38f,345 " ++
  "1ff6,3a9,342 1ff7,3a9,342,345 fb00,46,66 fb01,46,69 fb02,46,6c fb03,46,66,69 " ++
  "fb04,46,66,6c fb05,53,74 fb06,53,74 fb13,544,576 fb14,544,565 fb15,544,56b fb16,54e,576 " ++
  "fb17,544,56d")

/-- 大文字小文字を区別しない比較の形への一文字の写しの並び。 -/
def foldRuns : List CaseRun := readRuns (
  "41,5a,1,20 b5,b5,1,307 c0,d6,1,20 d8,de,1,20 100,12e,2,1 132,136,2,1 139,147,2,1 " ++
  "14a,176,2,1 178,178,1,-79 179,17d,2,1 17f,17f,1,-10c 181,181,1,d2 182,184,2,1 " ++
  "186,186,1,ce 187,187,1,1 189,18a,1,cd 18b,18b,1,1 18e,18e,1,4f 18f,18f,1,ca " ++
  "190,190,1,cb 191,191,1,1 193,193,1,cd 194,194,1,cf 196,196,1,d3 197,197,1,d1 " ++
  "198,198,1,1 19c,19c,1,d3 19d,19d,1,d5 19f,19f,1,d6 1a0,1a4,2,1 1a6,1a6,1,da 1a7,1a7,1,1 " ++
  "1a9,1a9,1,da 1ac,1ac,1,1 1ae,1ae,1,da 1af,1af,1,1 1b1,1b2,1,d9 1b3,1b5,2,1 1b7,1b7,1,db " ++
  "1b8,1b8,1,1 1bc,1bc,1,1 1c4,1c4,1,2 1c5,1c5,1,1 1c7,1c7,1,2 1c8,1c8,1,1 1ca,1ca,1,2 " ++
  "1cb,1db,2,1 1de,1ee,2,1 1f1,1f1,1,2 1f2,1f4,2,1 1f6,1f6,1,-61 1f7,1f7,1,-38 1f8,21e,2,1 " ++
  "220,220,1,-82 222,232,2,1 23a,23a,1,2a2b 23b,23b,1,1 23d,23d,1,-a3 23e,23e,1,2a28 " ++
  "241,241,1,1 243,243,1,-c3 244,244,1,45 245,245,1,47 246,24e,2,1 345,345,1,74 " ++
  "370,372,2,1 376,376,1,1 37f,37f,1,74 386,386,1,26 388,38a,1,25 38c,38c,1,40 " ++
  "38e,38f,1,3f 391,3a1,1,20 3a3,3ab,1,20 3c2,3c2,1,1 3cf,3cf,1,8 3d0,3d0,1,-1e " ++
  "3d1,3d1,1,-19 3d5,3d5,1,-f 3d6,3d6,1,-16 3d8,3ee,2,1 3f0,3f0,1,-36 3f1,3f1,1,-30 " ++
  "3f4,3f4,1,-3c 3f5,3f5,1,-40 3f7,3f7,1,1 3f9,3f9,1,-7 3fa,3fa,1,1 3fd,3ff,1,-82 " ++
  "400,40f,1,50 410,42f,1,20 460,480,2,1 48a,4be,2,1 4c0,4c0,1,f 4c1,4cd,2,1 4d0,52e,2,1 " ++
  "531,556,1,30 10a0,10c5,1,1c60 10c7,10c7,1,1c60 10cd,10cd,1,1c60 13f8,13fd,1,-8 " ++
  "1c80,1c80,1,-184e 1c81,1c81,1,-184d 1c82,1c82,1,-1844 1c83,1c84,1,-1842 " ++
  "1c85,1c85,1,-1843 1c86,1c86,1,-183c 1c87,1c87,1,-1824 1c88,1c88,1,89c3 1c90,1cba,1,-bc0 " ++
  "1cbd,1cbf,1,-bc0 1e00,1e94,2,1 1e9b,1e9b,1,-3a 1ea0,1efe,2,1 1f08,1f0f,1,-8 " ++
  "1f18,1f1d,1,-8 1f28,1f2f,1,-8 1f38,1f3f,1,-8 1f48,1f4d,1,-8 1f59,1f5f,2,-8 " ++
  "1f68,1f6f,1,-8 1fb8,1fb9,1,-8 1fba,1fbb,1,-4a 1fbe,1fbe,1,-1c05 1fc8,1fcb,1,-56 " ++
  "1fd8,1fd9,1,-8 1fda,1fdb,1,-64 1fe8,1fe9,1,-8 1fea,1feb,1,-70 1fec,1fec,1,-7 " ++
  "1ff8,1ff9,1,-80 1ffa,1ffb,1,-7e 2126,2126,1,-1d5d 212a,212a,1,-20bf 212b,212b,1,-2046 " ++
  "2132,2132,1,1c 2160,216f,1,10 2183,2183,1,1 24b6,24cf,1,1a 2c00,2c2f,1,30 2c60,2c60,1,1 " ++
  "2c62,2c62,1,-29f7 2c63,2c63,1,-ee6 2c64,2c64,1,-29e7 2c67,2c6b,2,1 2c6d,2c6d,1,-2a1c " ++
  "2c6e,2c6e,1,-29fd 2c6f,2c6f,1,-2a1f 2c70,2c70,1,-2a1e 2c72,2c72,1,1 2c75,2c75,1,1 " ++
  "2c7e,2c7f,1,-2a3f 2c80,2ce2,2,1 2ceb,2ced,2,1 2cf2,2cf2,1,1 a640,a66c,2,1 a680,a69a,2,1 " ++
  "a722,a72e,2,1 a732,a76e,2,1 a779,a77b,2,1 a77d,a77d,1,-8a04 a77e,a786,2,1 a78b,a78b,1,1 " ++
  "a78d,a78d,1,-a528 a790,a792,2,1 a796,a7a8,2,1 a7aa,a7aa,1,-a544 a7ab,a7ab,1,-a54f " ++
  "a7ac,a7ac,1,-a54b a7ad,a7ad,1,-a541 a7ae,a7ae,1,-a544 a7b0,a7b0,1,-a512 " ++
  "a7b1,a7b1,1,-a52a a7b2,a7b2,1,-a515 a7b3,a7b3,1,3a0 a7b4,a7c2,2,1 a7c4,a7c4,1,-30 " ++
  "a7c5,a7c5,1,-a543 a7c6,a7c6,1,-8a38 a7c7,a7c9,2,1 a7d0,a7d0,1,1 a7d6,a7d8,2,1 " ++
  "a7f5,a7f5,1,1 ab70,abbf,1,-97d0 ff21,ff3a,1,20 10400,10427,1,28 104b0,104d3,1,28 " ++
  "10570,1057a,1,27 1057c,1058a,1,27 1058c,10592,1,27 10594,10595,1,27 10c80,10cb2,1,40 " ++
  "118a0,118bf,1,20 16e40,16e5f,1,20 1e900,1e921,1,22")

/-- 大文字小文字を区別しない比較の形への写しが複数の文字になる文字。 -/
def foldMulti : List (Nat × List Nat) := readMulti (
  "df,73,73 130,69,307 149,2bc,6e 1f0,6a,30c 390,3b9,308,301 3b0,3c5,308,301 587,565,582 " ++
  "1e96,68,331 1e97,74,308 1e98,77,30a 1e99,79,30a 1e9a,61,2be 1e9e,73,73 1f50,3c5,313 " ++
  "1f52,3c5,313,300 1f54,3c5,313,301 1f56,3c5,313,342 1f80,1f00,3b9 1f81,1f01,3b9 " ++
  "1f82,1f02,3b9 1f83,1f03,3b9 1f84,1f04,3b9 1f85,1f05,3b9 1f86,1f06,3b9 1f87,1f07,3b9 " ++
  "1f88,1f00,3b9 1f89,1f01,3b9 1f8a,1f02,3b9 1f8b,1f03,3b9 1f8c,1f04,3b9 1f8d,1f05,3b9 " ++
  "1f8e,1f06,3b9 1f8f,1f07,3b9 1f90,1f20,3b9 1f91,1f21,3b9 1f92,1f22,3b9 1f93,1f23,3b9 " ++
  "1f94,1f24,3b9 1f95,1f25,3b9 1f96,1f26,3b9 1f97,1f27,3b9 1f98,1f20,3b9 1f99,1f21,3b9 " ++
  "1f9a,1f22,3b9 1f9b,1f23,3b9 1f9c,1f24,3b9 1f9d,1f25,3b9 1f9e,1f26,3b9 1f9f,1f27,3b9 " ++
  "1fa0,1f60,3b9 1fa1,1f61,3b9 1fa2,1f62,3b9 1fa3,1f63,3b9 1fa4,1f64,3b9 1fa5,1f65,3b9 " ++
  "1fa6,1f66,3b9 1fa7,1f67,3b9 1fa8,1f60,3b9 1fa9,1f61,3b9 1faa,1f62,3b9 1fab,1f63,3b9 " ++
  "1fac,1f64,3b9 1fad,1f65,3b9 1fae,1f66,3b9 1faf,1f67,3b9 1fb2,1f70,3b9 1fb3,3b1,3b9 " ++
  "1fb4,3ac,3b9 1fb6,3b1,342 1fb7,3b1,342,3b9 1fbc,3b1,3b9 1fc2,1f74,3b9 1fc3,3b7,3b9 " ++
  "1fc4,3ae,3b9 1fc6,3b7,342 1fc7,3b7,342,3b9 1fcc,3b7,3b9 1fd2,3b9,308,300 " ++
  "1fd3,3b9,308,301 1fd6,3b9,342 1fd7,3b9,308,342 1fe2,3c5,308,300 1fe3,3c5,308,301 " ++
  "1fe4,3c1,313 1fe6,3c5,342 1fe7,3c5,308,342 1ff2,1f7c,3b9 1ff3,3c9,3b9 1ff4,3ce,3b9 " ++
  "1ff6,3c9,342 1ff7,3c9,342,3b9 1ffc,3c9,3b9 fb00,66,66 fb01,66,69 fb02,66,6c " ++
  "fb03,66,66,69 fb04,66,66,6c fb05,73,74 fb06,73,74 fb13,574,576 fb14,574,565 " ++
  "fb15,574,56b fb16,57e,576 fb17,574,56d")

/-- 小文字（Lowercase）の符号位置の並び。 -/
def lowercaseSteps : List StepRange := readSteps (
  "61,7a,1 aa,aa,1 b5,b5,1 ba,ba,1 df,f6,1 f8,ff,1 101,137,2 138,148,2 149,177,2 17a,17e,2 " ++
  "17f,180,1 183,185,2 188,188,1 18c,18d,1 192,192,1 195,195,1 199,19b,1 19e,19e,1 " ++
  "1a1,1a5,2 1a8,1aa,2 1ab,1ad,2 1b0,1b0,1 1b4,1b6,2 1b9,1ba,1 1bd,1bf,1 1c6,1c6,1 " ++
  "1c9,1c9,1 1cc,1dc,2 1dd,1ef,2 1f0,1f0,1 1f3,1f5,2 1f9,233,2 234,239,1 23c,23c,1 " ++
  "23f,240,1 242,242,1 247,24f,2 250,293,1 295,2b8,1 2c0,2c1,1 2e0,2e4,1 345,345,1 " ++
  "371,373,2 377,377,1 37a,37d,1 390,390,1 3ac,3ce,1 3d0,3d1,1 3d5,3d7,1 3d9,3ef,2 " ++
  "3f0,3f3,1 3f5,3f5,1 3f8,3f8,1 3fb,3fc,1 430,45f,1 461,481,2 48b,4bf,2 4c2,4ce,2 " ++
  "4cf,52f,2 560,588,1 10d0,10fa,1 10fd,10ff,1 13f8,13fd,1 1c80,1c88,1 1d00,1dbf,1 " ++
  "1e01,1e95,2 1e96,1e9d,1 1e9f,1eff,2 1f00,1f07,1 1f10,1f15,1 1f20,1f27,1 1f30,1f37,1 " ++
  "1f40,1f45,1 1f50,1f57,1 1f60,1f67,1 1f70,1f7d,1 1f80,1f87,1 1f90,1f97,1 1fa0,1fa7,1 " ++
  "1fb0,1fb4,1 1fb6,1fb7,1 1fbe,1fbe,1 1fc2,1fc4,1 1fc6,1fc7,1 1fd0,1fd3,1 1fd6,1fd7,1 " ++
  "1fe0,1fe7,1 1ff2,1ff4,1 1ff6,1ff7,1 2071,2071,1 207f,207f,1 2090,209c,1 210a,210a,1 " ++
  "210e,210f,1 2113,2113,1 212f,212f,1 2134,2134,1 2139,2139,1 213c,213d,1 2146,2149,1 " ++
  "214e,214e,1 2170,217f,1 2184,2184,1 24d0,24e9,1 2c30,2c5f,1 2c61,2c61,1 2c65,2c66,1 " ++
  "2c68,2c6c,2 2c71,2c73,2 2c74,2c76,2 2c77,2c7d,1 2c81,2ce3,2 2ce4,2ce4,1 2cec,2cee,2 " ++
  "2cf3,2cf3,1 2d00,2d25,1 2d27,2d27,1 2d2d,2d2d,1 a641,a66d,2 a681,a69b,2 a69c,a69d,1 " ++
  "a723,a72f,2 a730,a731,1 a733,a76f,2 a770,a778,1 a77a,a77c,2 a77f,a787,2 a78c,a78e,2 " ++
  "a791,a793,2 a794,a795,1 a797,a7a9,2 a7af,a7af,1 a7b5,a7c3,2 a7c8,a7ca,2 a7d1,a7d9,2 " ++
  "a7f6,a7f8,2 a7f9,a7fa,1 ab30,ab5a,1 ab5c,ab68,1 ab70,abbf,1 fb00,fb06,1 fb13,fb17,1 " ++
  "ff41,ff5a,1 10428,1044f,1 104d8,104fb,1 10597,105a1,1 105a3,105b1,1 105b3,105b9,1 " ++
  "105bb,105bc,1 10780,10780,1 10783,10785,1 10787,107b0,1 107b2,107ba,1 10cc0,10cf2,1 " ++
  "118c0,118df,1 16e60,16e7f,1 1d41a,1d433,1 1d44e,1d454,1 1d456,1d467,1 1d482,1d49b,1 " ++
  "1d4b6,1d4b9,1 1d4bb,1d4bd,2 1d4be,1d4c3,1 1d4c5,1d4cf,1 1d4ea,1d503,1 1d51e,1d537,1 " ++
  "1d552,1d56b,1 1d586,1d59f,1 1d5ba,1d5d3,1 1d5ee,1d607,1 1d622,1d63b,1 1d656,1d66f,1 " ++
  "1d68a,1d6a5,1 1d6c2,1d6da,1 1d6dc,1d6e1,1 1d6fc,1d714,1 1d716,1d71b,1 1d736,1d74e,1 " ++
  "1d750,1d755,1 1d770,1d788,1 1d78a,1d78f,1 1d7aa,1d7c2,1 1d7c4,1d7c9,1 1d7cb,1d7cb,1 " ++
  "1df00,1df09,1 1df0b,1df1e,1 1e922,1e943,1")

/-- 大文字（Uppercase）の符号位置の並び。 -/
def uppercaseSteps : List StepRange := readSteps (
  "41,5a,1 c0,d6,1 d8,de,1 100,136,2 139,147,2 14a,178,2 179,17d,2 181,182,1 184,186,2 " ++
  "187,189,2 18a,18b,1 18e,191,1 193,194,1 196,198,1 19c,19d,1 19f,1a0,1 1a2,1a6,2 " ++
  "1a7,1a9,2 1ac,1ae,2 1af,1b1,2 1b2,1b3,1 1b5,1b7,2 1b8,1b8,1 1bc,1bc,1 1c4,1c4,1 " ++
  "1c7,1c7,1 1ca,1ca,1 1cd,1db,2 1de,1ee,2 1f1,1f1,1 1f4,1f6,2 1f7,1f8,1 1fa,232,2 " ++
  "23a,23b,1 23d,23e,1 241,243,2 244,246,1 248,24e,2 370,372,2 376,376,1 37f,37f,1 " ++
  "386,388,2 389,38a,1 38c,38e,2 38f,391,2 392,3a1,1 3a3,3ab,1 3cf,3cf,1 3d2,3d4,1 " ++
  "3d8,3ee,2 3f4,3f4,1 3f7,3f9,2 3fa,3fa,1 3fd,42f,1 460,480,2 48a,4c0,2 4c1,4cd,2 " ++
  "4d0,52e,2 531,556,1 10a0,10c5,1 10c7,10c7,1 10cd,10cd,1 13a0,13f5,1 1c90,1cba,1 " ++
  "1cbd,1cbf,1 1e00,1e94,2 1e9e,1efe,2 1f08,1f0f,1 1f18,1f1d,1 1f28,1f2f,1 1f38,1f3f,1 " ++
  "1f48,1f4d,1 1f59,1f5f,2 1f68,1f6f,1 1fb8,1fbb,1 1fc8,1fcb,1 1fd8,1fdb,1 1fe8,1fec,1 " ++
  "1ff8,1ffb,1 2102,2102,1 2107,2107,1 210b,210d,1 2110,2112,1 2115,2115,1 2119,211d,1 " ++
  "2124,212a,2 212b,212d,1 2130,2133,1 213e,213f,1 2145,2145,1 2160,216f,1 2183,2183,1 " ++
  "24b6,24cf,1 2c00,2c2f,1 2c60,2c62,2 2c63,2c64,1 2c67,2c6d,2 2c6e,2c70,1 2c72,2c72,1 " ++
  "2c75,2c75,1 2c7e,2c80,1 2c82,2ce2,2 2ceb,2ced,2 2cf2,2cf2,1 a640,a66c,2 a680,a69a,2 " ++
  "a722,a72e,2 a732,a76e,2 a779,a77d,2 a77e,a786,2 a78b,a78d,2 a790,a792,2 a796,a7aa,2 " ++
  "a7ab,a7ae,1 a7b0,a7b4,1 a7b6,a7c4,2 a7c5,a7c7,1 a7c9,a7c9,1 a7d0,a7d0,1 a7d6,a7d8,2 " ++
  "a7f5,a7f5,1 ff21,ff3a,1 10400,10427,1 104b0,104d3,1 10570,1057a,1 1057c,1058a,1 " ++
  "1058c,10592,1 10594,10595,1 10c80,10cb2,1 118a0,118bf,1 16e40,16e5f,1 1d400,1d419,1 " ++
  "1d434,1d44d,1 1d468,1d481,1 1d49c,1d49e,2 1d49f,1d49f,1 1d4a2,1d4a2,1 1d4a5,1d4a6,1 " ++
  "1d4a9,1d4ac,1 1d4ae,1d4b5,1 1d4d0,1d4e9,1 1d504,1d505,1 1d507,1d50a,1 1d50d,1d514,1 " ++
  "1d516,1d51c,1 1d538,1d539,1 1d53b,1d53e,1 1d540,1d544,1 1d546,1d546,1 1d54a,1d550,1 " ++
  "1d56c,1d585,1 1d5a0,1d5b9,1 1d5d4,1d5ed,1 1d608,1d621,1 1d63c,1d655,1 1d670,1d689,1 " ++
  "1d6a8,1d6c0,1 1d6e2,1d6fa,1 1d71c,1d734,1 1d756,1d76e,1 1d790,1d7a8,1 1d7ca,1d7ca,1 " ++
  "1e900,1e921,1 1f130,1f149,1 1f150,1f169,1 1f170,1f189,1")

/-- タイトル文字（一般分類 Lt）の符号位置の並び。 -/
def titlecaseSteps : List StepRange := readSteps (
  "1c5,1c5,1 1c8,1c8,1 1cb,1cb,1 1f2,1f2,1 1f88,1f8f,1 1f98,1f9f,1 1fa8,1faf,1 1fbc,1fbc,1 " ++
  "1fcc,1fcc,1 1ffc,1ffc,1")

/-- 大文字小文字を無視する文字（Case_Ignorable）の符号位置の並び。 -/
def caseIgnorableSteps : List StepRange := readSteps (
  "27,27,1 2e,2e,1 3a,3a,1 5e,60,2 a8,a8,1 ad,af,2 b4,b4,1 b7,b8,1 2b0,36f,1 374,375,1 " ++
  "37a,37a,1 384,385,1 387,387,1 483,489,1 559,559,1 55f,55f,1 591,5bd,1 5bf,5c1,2 " ++
  "5c2,5c4,2 5c5,5c7,2 5f4,5f4,1 600,605,1 610,61a,1 61c,61c,1 640,640,1 64b,65f,1 " ++
  "670,670,1 6d6,6dd,1 6df,6e8,1 6ea,6ed,1 70f,711,2 730,74a,1 7a6,7b0,1 7eb,7f5,1 " ++
  "7fa,7fa,1 7fd,7fd,1 816,82d,1 859,85b,1 888,888,1 890,891,1 898,89f,1 8c9,902,1 " ++
  "93a,93c,2 941,948,1 94d,94d,1 951,957,1 962,963,1 971,971,1 981,981,1 9bc,9bc,1 " ++
  "9c1,9c4,1 9cd,9cd,1 9e2,9e3,1 9fe,9fe,1 a01,a02,1 a3c,a3c,1 a41,a42,1 a47,a48,1 " ++
  "a4b,a4d,1 a51,a51,1 a70,a71,1 a75,a75,1 a81,a82,1 abc,abc,1 ac1,ac5,1 ac7,ac8,1 " ++
  "acd,acd,1 ae2,ae3,1 afa,aff,1 b01,b01,1 b3c,b3c,1 b3f,b41,2 b42,b44,1 b4d,b4d,1 " ++
  "b55,b56,1 b62,b63,1 b82,b82,1 bc0,bc0,1 bcd,bcd,1 c00,c00,1 c04,c04,1 c3c,c3e,2 " ++
  "c3f,c40,1 c46,c48,1 c4a,c4d,1 c55,c56,1 c62,c63,1 c81,c81,1 cbc,cbc,1 cbf,cbf,1 " ++
  "cc6,cc6,1 ccc,ccd,1 ce2,ce3,1 d00,d01,1 d3b,d3c,1 d41,d44,1 d4d,d4d,1 d62,d63,1 " ++
  "d81,d81,1 dca,dca,1 dd2,dd4,1 dd6,dd6,1 e31,e31,1 e34,e3a,1 e46,e4e,1 eb1,eb1,1 " ++
  "eb4,ebc,1 ec6,ec8,2 ec9,ecd,1 f18,f19,1 f35,f39,2 f71,f7e,1 f80,f84,1 f86,f87,1 " ++
  "f8d,f97,1 f99,fbc,1 fc6,fc6,1 102d,1030,1 1032,1037,1 1039,103a,1 103d,103e,1 " ++
  "1058,1059,1 105e,1060,1 1071,1074,1 1082,1082,1 1085,1086,1 108d,108d,1 109d,109d,1 " ++
  "10fc,10fc,1 135d,135f,1 1712,1714,1 1732,1733,1 1752,1753,1 1772,1773,1 17b4,17b5,1 " ++
  "17b7,17bd,1 17c6,17c6,1 17c9,17d3,1 17d7,17d7,1 17dd,17dd,1 180b,180f,1 1843,1843,1 " ++
  "1885,1886,1 18a9,18a9,1 1920,1922,1 1927,1928,1 1932,1932,1 1939,193b,1 1a17,1a18,1 " ++
  "1a1b,1a1b,1 1a56,1a58,2 1a59,1a5e,1 1a60,1a62,2 1a65,1a6c,1 1a73,1a7c,1 1a7f,1a7f,1 " ++
  "1aa7,1aa7,1 1ab0,1ace,1 1b00,1b03,1 1b34,1b36,2 1b37,1b3a,1 1b3c,1b3c,1 1b42,1b42,1 " ++
  "1b6b,1b73,1 1b80,1b81,1 1ba2,1ba5,1 1ba8,1ba9,1 1bab,1bad,1 1be6,1be8,2 1be9,1be9,1 " ++
  "1bed,1bef,2 1bf0,1bf1,1 1c2c,1c33,1 1c36,1c37,1 1c78,1c7d,1 1cd0,1cd2,1 1cd4,1ce0,1 " ++
  "1ce2,1ce8,1 1ced,1ced,1 1cf4,1cf4,1 1cf8,1cf9,1 1d2c,1d6a,1 1d78,1d78,1 1d9b,1dff,1 " ++
  "1fbd,1fbf,2 1fc0,1fc1,1 1fcd,1fcf,1 1fdd,1fdf,1 1fed,1fef,1 1ffd,1ffe,1 200b,200f,1 " ++
  "2018,2019,1 2024,2024,1 2027,2027,1 202a,202e,1 2060,2064,1 2066,206f,1 2071,2071,1 " ++
  "207f,207f,1 2090,209c,1 20d0,20f0,1 2c7c,2c7d,1 2cef,2cf1,1 2d6f,2d6f,1 2d7f,2d7f,1 " ++
  "2de0,2dff,1 2e2f,2e2f,1 3005,3005,1 302a,302d,1 3031,3035,1 303b,303b,1 3099,309e,1 " ++
  "30fc,30fe,1 a015,a015,1 a4f8,a4fd,1 a60c,a60c,1 a66f,a672,1 a674,a67d,1 a67f,a67f,1 " ++
  "a69c,a69f,1 a6f0,a6f1,1 a700,a721,1 a770,a770,1 a788,a78a,1 a7f2,a7f4,1 a7f8,a7f9,1 " ++
  "a802,a802,1 a806,a806,1 a80b,a80b,1 a825,a826,1 a82c,a82c,1 a8c4,a8c5,1 a8e0,a8f1,1 " ++
  "a8ff,a8ff,1 a926,a92d,1 a947,a951,1 a980,a982,1 a9b3,a9b3,1 a9b6,a9b9,1 a9bc,a9bd,1 " ++
  "a9cf,a9cf,1 a9e5,a9e6,1 aa29,aa2e,1 aa31,aa32,1 aa35,aa36,1 aa43,aa43,1 aa4c,aa4c,1 " ++
  "aa70,aa70,1 aa7c,aa7c,1 aab0,aab2,2 aab3,aab4,1 aab7,aab8,1 aabe,aabf,1 aac1,aac1,1 " ++
  "aadd,aadd,1 aaec,aaed,1 aaf3,aaf4,1 aaf6,aaf6,1 ab5b,ab5f,1 ab69,ab6b,1 abe5,abe5,1 " ++
  "abe8,abe8,1 abed,abed,1 fb1e,fb1e,1 fbb2,fbc2,1 fe00,fe0f,1 fe13,fe13,1 fe20,fe2f,1 " ++
  "fe52,fe52,1 fe55,fe55,1 feff,feff,1 ff07,ff07,1 ff0e,ff0e,1 ff1a,ff1a,1 ff3e,ff40,2 " ++
  "ff70,ff70,1 ff9e,ff9f,1 ffe3,ffe3,1 fff9,fffb,1 101fd,101fd,1 102e0,102e0,1 " ++
  "10376,1037a,1 10780,10785,1 10787,107b0,1 107b2,107ba,1 10a01,10a03,1 10a05,10a06,1 " ++
  "10a0c,10a0f,1 10a38,10a3a,1 10a3f,10a3f,1 10ae5,10ae6,1 10d24,10d27,1 10eab,10eac,1 " ++
  "10f46,10f50,1 10f82,10f85,1 11001,11001,1 11038,11046,1 11070,11070,1 11073,11074,1 " ++
  "1107f,11081,1 110b3,110b6,1 110b9,110ba,1 110bd,110bd,1 110c2,110c2,1 110cd,110cd,1 " ++
  "11100,11102,1 11127,1112b,1 1112d,11134,1 11173,11173,1 11180,11181,1 111b6,111be,1 " ++
  "111c9,111cc,1 111cf,111cf,1 1122f,11231,1 11234,11236,2 11237,11237,1 1123e,1123e,1 " ++
  "112df,112df,1 112e3,112ea,1 11300,11301,1 1133b,1133c,1 11340,11340,1 11366,1136c,1 " ++
  "11370,11374,1 11438,1143f,1 11442,11444,1 11446,11446,1 1145e,1145e,1 114b3,114b8,1 " ++
  "114ba,114ba,1 114bf,114c0,1 114c2,114c3,1 115b2,115b5,1 115bc,115bd,1 115bf,115c0,1 " ++
  "115dc,115dd,1 11633,1163a,1 1163d,1163f,2 11640,11640,1 116ab,116ad,2 116b0,116b5,1 " ++
  "116b7,116b7,1 1171d,1171f,1 11722,11725,1 11727,1172b,1 1182f,11837,1 11839,1183a,1 " ++
  "1193b,1193c,1 1193e,1193e,1 11943,11943,1 119d4,119d7,1 119da,119db,1 119e0,119e0,1 " ++
  "11a01,11a0a,1 11a33,11a38,1 11a3b,11a3e,1 11a47,11a47,1 11a51,11a56,1 11a59,11a5b,1 " ++
  "11a8a,11a96,1 11a98,11a99,1 11c30,11c36,1 11c38,11c3d,1 11c3f,11c3f,1 11c92,11ca7,1 " ++
  "11caa,11cb0,1 11cb2,11cb3,1 11cb5,11cb6,1 11d31,11d36,1 11d3a,11d3c,2 11d3d,11d3f,2 " ++
  "11d40,11d45,1 11d47,11d47,1 11d90,11d91,1 11d95,11d97,2 11ef3,11ef4,1 13430,13438,1 " ++
  "16af0,16af4,1 16b30,16b36,1 16b40,16b43,1 16f4f,16f4f,1 16f8f,16f9f,1 16fe0,16fe1,1 " ++
  "16fe3,16fe4,1 1aff0,1aff3,1 1aff5,1affb,1 1affd,1affe,1 1bc9d,1bc9e,1 1bca0,1bca3,1 " ++
  "1cf00,1cf2d,1 1cf30,1cf46,1 1d167,1d169,1 1d173,1d182,1 1d185,1d18b,1 1d1aa,1d1ad,1 " ++
  "1d242,1d244,1 1da00,1da36,1 1da3b,1da6c,1 1da75,1da75,1 1da84,1da84,1 1da9b,1da9f,1 " ++
  "1daa1,1daaf,1 1e000,1e006,1 1e008,1e018,1 1e01b,1e021,1 1e023,1e024,1 1e026,1e02a,1 " ++
  "1e130,1e13d,1 1e2ae,1e2ae,1 1e2ec,1e2ef,1 1e8d0,1e8d6,1 1e944,1e94b,1 1f3fb,1f3ff,1 " ++
  "e0001,e0001,1 e0020,e007f,1 e0100,e01ef,1")

/-- 大文字への写し。 -/
def toUpperFull (c : Char) : List Char := mapWith upperRuns upperMulti c

/-- 小文字への写し（前後を見ない写し）。 -/
def toLowerFull (c : Char) : List Char := mapWith lowerRuns lowerMulti c

/-- タイトル文字への写し。 -/
def toTitleFull (c : Char) : List Char := mapWith titleRuns titleMulti c

/-- 大文字小文字を区別しない比較の形への写し。 -/
def toFoldedFull (c : Char) : List Char := mapWith foldRuns foldMulti c

/-- 小文字か。 -/
def isLowercase (c : Char) : Bool := inSteps lowercaseSteps c

/-- 大文字か。 -/
def isUppercase (c : Char) : Bool := inSteps uppercaseSteps c

/-- タイトル文字か。 -/
def isTitlecase (c : Char) : Bool := inSteps titlecaseSteps c

/-- 大文字小文字を持つ文字か（小文字、大文字、タイトル文字）。 -/
def isCased (c : Char) : Bool := isLowercase c || isUppercase c || isTitlecase c

/-- 大文字小文字を無視する文字か。 -/
def isCaseIgnorable (c : Char) : Bool := inSteps caseIgnorableSteps c

end Unicode

end DataAccess
