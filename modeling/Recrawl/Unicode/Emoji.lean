import Recrawl.Unicode.Run

/-!
Emoji: which characters are drawn as pictures, which have both a form as text and
one as a picture, and which take a skin tone.
-/
namespace Recrawl.Unicode

/-- The characters that are pictures unless a selector asks for text. Skin tones and the letters of
flags are left out. -/
def pictureRuns : Array (Run Unit) := setOf "
231a.2 cd.4 3.1 2.1 209.2 15.2 32.c 2b.1 13.1 d.1 8.2 11.2 5.2 8.1 5.1 15.1 7.2 1.1 4.1 2.1 7.1
4.2 1c.1 23.1 1.1 4.3 1.1 3d.3 18.1 e.1 35b.2 33.1 4.1 1c4ae.1 ca.1 be.1 2.a 66.1 18.1 14.1 2.5
1.3 15.2 ae.21 c.9 1.46 1.16 c.2b 4.5 c.11 3.1 3.3 5.3f 1.1 1.bb 2.3f d.4 1.18 12.1 1a.2 d.1
56.55 30.46 6.1 3.3 2.4 3.4 b.2 7.9 e3.c 4.1 11b.2f 1.a 1.b9 70.d 3.b 3.39 1.1 4.10 2.c 4.a"

/-- The characters with a form as text and a form as a picture. -/
def twoFormRuns : Array (Run Unit) := setOf "
23.1 6.1 5.a 6f.1 4.1 1f8d.1 c.1 d8.1 16.1 5a.6 f.2 16f.2 c.1 a6.1 19.b 4.3 c7.1 e7.2 a.1 9.1
3a.4 1.5 9.1 2.1 2.2 2.1 4.1 2.1 1.2 2.1 3.1 3.2 8.3 5.1 1.1 5.c b.2 2.1 1.2 1.1 12.1 2.2 12.6
1.1 1.2 3.2 5.1 2.2 4.2 b.2 5.2 2.1 5.2 1.1 1.2 14.2 5.6 1.4 2.1 4.1 2.1 2.6 1.1 2.1 1.1 1.1 6.1
3.1 6.1 a.2 f.1 2.1 4.1 1.1 4.3 1.1 b.2 30.3 9.1 e.1 e.1 174.2 1cf.3 13.2 33.1 4.1 4da.1 c.1
259.1 1.1 1bd6a.1 16b.2 c.2 82.1 17.1 14.1 7.1 d5.3 5.1 6.1 4.1 2.9 9.1 41.1 4.1 15.1 2.2 1.3
2.2 7.1 4.3 13.1 1.1 1.1 3.5 5.d c.1 5.1 1.1 1.1 10.1 c.1 9.1 6.1 18.1 1.2 3.4 3.2 4.1 16.1 12.1
25.1 c.1 2.1 7.1 3.1 b.1 e.1 4.1 4.3 3.4 9.1 1.3 1.1 a.1 4.1 4.2 35.2 5.18 7.2 2.7 d.1 2.4 2.1
14.1 2.1 8.2 9.1 5.3 c.3 8.3 2.1 1.1 4.1 6.1 3.1 6.1 15.1 76.1 5.1 3.1 2.1 3.1 14.1 4.1 6.2 1.1
e.1 1.3 10.6 3.1 6.1 2.1"

def toneBaseRuns : Array (Run Unit) := setOf "
261d.1 db.1 10.4 1cc77.1 3c.3 2.1 2.3 75.2 2.b 15.13 3.1 4.3 1.3 7.1 1.1 18.1 c9.2 4.1 15.1 4.2
ae.3 3.5 53.1 10.3 9.1 b.1 23f.1 2.1 8.8 6.1 9.a 2.3 38.1 3d.2 1.2 1.1 11.3 1.d e5.3 2a.9"

def isPicture (c : Char) : Bool := Run.holds pictureRuns c

/-- A selector chooses between two forms of the character. -/
def hasTwoForms (c : Char) : Bool := Run.holds twoFormRuns c

def takesTone (c : Char) : Bool := Run.holds toneBaseRuns c

def isTone (c : Char) : Bool := 0x1F3FB ≤ c.toNat && c.toNat ≤ 0x1F3FF

def isFlagLetter (c : Char) : Bool := 0x1F1E6 ≤ c.toNat && c.toNat ≤ 0x1F1FF

/-- The picture is narrow in its form as text. Squared ideographs are wide in both forms. -/
def narrowsAsText (c : Char) : Bool :=
  hasTwoForms c && isPicture c && !(0x1F200 ≤ c.toNat && c.toNat ≤ 0x1F2FF)

end Recrawl.Unicode
