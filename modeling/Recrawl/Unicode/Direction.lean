import Recrawl.Unicode.Run

/-!
The bidirectional class of a character: how it takes part in the layout of text
that runs in both directions.
-/
namespace Recrawl.Unicode

/-- The bidirectional classes that the rules for names tell apart. -/
inductive Direction
  | leftToRight
  | rightToLeft
  | arabicLetter
  | arabicNumber
  | europeanNumber
  | europeanSeparator
  | europeanTerminator
  | commonSeparator
  | nonSpacingMark
  | boundaryNeutral
  | neutral
  /-- Separators of paragraphs and segments, blanks and explicit controls. -/
  | control
  deriving DecidableEq, Repr

namespace Direction

def ofLetter : List Char → Direction
  | ['r'] => rightToLeft
  | ['a'] => arabicLetter
  | ['n'] => arabicNumber
  | ['e'] => europeanNumber
  | ['s'] => europeanSeparator
  | ['t'] => europeanTerminator
  | ['c'] => commonSeparator
  | ['m'] => nonSpacingMark
  | ['b'] => boundaryNeutral
  | ['o'] => neutral
  | ['x'] => control
  | _ => leftToRight

/-- The runs of ASCII and Latin-1 characters that are not simply written from left to right. -/
def latinText : String := "
0.9.b 0.5.x 0.e.b 0.5.x 0.2.o 0.3.t 0.5.o 0.1.s 0.1.c 0.1.s 0.2.c 0.a.e 0.1.c 0.6.o 1a.6.o 1a.4.o
0.6.b 0.1.x 0.1a.b 0.1.c 0.1.o 0.4.t 0.4.o 1.2.o 0.1.b 0.2.o 0.2.t 0.2.e 0.1.o 1.3.o 0.1.e 1.5.o
17.1.o 1f.1.o"

/-- The runs of other characters that are not simply written from left to right. -/
def otherText : String := "
1c1.2.o 7.e.o 2.e.o 5.9.o 1.11.o 0.70.m 4.2.o 8.1.o 5.2.o 1.1.o 6e.1.o 8c.7.m 100.1.o 2.2.o 0.1.t
1.2d.m 0.1.r 0.1.m 0.1.r 0.2.m 0.1.r 0.2.m 0.1.r 0.1.m 8.25.r b.6.n 0.2.o 0.1.a 0.2.t 0.1.a 0.1.c
0.1.a 0.2.o 0.b.m 0.30.a 0.15.m 0.a.n 0.1.t 0.2.n 0.3.a 0.1.m 0.65.a 0.7.m 0.1.n 0.1.o 0.6.m 0.2.a
0.2.m 0.1.o 0.4.m 0.2.a 0.a.e 0.17.a 0.1.m 0.1e.a 0.1b.m 2.59.a 0.b.m 0.1.a e.2b.r 0.9.m 0.2.r 0.4.o
0.1.r 2.1.m 0.18.r 0.4.m 0.1.r 0.9.m 0.1.r 0.3.m 0.1.r 0.5.m 2.29.r 0.3.m 2.1.r 1.30.a 0.2.n 5.9.m
0.2a.a 0.18.m 0.1.n 0.20.m 37.1.m 1.1.m 4.8.m 4.1.m 3.7.m a.2.m 1d.1.m 3a.1.m 4.4.m 8.1.m 14.2.m
e.2.t 7.1.t 2.5.m 39.1.m 4.11.m 1e.2.m 3.1.m b.2.m 39.1.m 4.8.m 4.1.m 14.2.m d.1.t 8.8.m 3a.1.m
2.1.m 1.4.m 8.a.m b.2.m 1e.1.m 3d.1.m c.1.m 25.6.o 0.1.t 0.1.o 5.1.m 3.1.m 37.1.m 1.3.m 5.11.m b.2.m
14.7.o 2.1.m 3a.1.m f.2.m 14.2.m 1c.2.m 39.2.m 4.4.m 8.1.m 14.2.m 1d.1.m 48.1.m 7.5.m 5a.1.m 2.7.m
4.1.t 7.8.m 62.1.m 2.9.m b.7.m 49.2.m 1b.1.m 1.1.m 1.1.m 0.4.o 33.e.m 1.5.m 1.2.m 5.30.m 9.1.m
66.4.m 1.6.m 1.2.m 2.2.m 19.2.m 4.3.m 10.4.m d.1.m 2.2.m 6.1.m f.1.m 2bf.3.m 30.a.o 66.1.o 27f.1.x
1a.2.o 75.3.m 1d.2.m 1e.2.m 1e.2.m 40.2.m 1.7.m 8.1.m 2.b.m 7.1.t 1.1.m 12.1b.o 0.3.m 0.1.b 0.1.m
75.2.m 22.1.m 76.3.m 4.2.m 9.1.m 6.3.m 4.6.o 98.22.o 17.2.m 2.1.m 3a.1.m 1.9.m 1.1.m 2.8.m 6.d.m
30.54.m 30.1.m 1.5.m 1.1.m 5.1.m 28.9.m c.2.m 20.4.m 2.2.m 1.3.m 38.1.m 1.2.m 3.1.m 1.3.m 3a.8.m
2.2.m 98.3.m 1.d.m 1.7.m 4.1.m 6.1.m 3.2.m c6.40.m 1bd.1.o 1.3.o b.3.o d.3.o d.3.o d.2.o 1.b.x 0.3.b
1.1.r 0.18.o 0.7.x 0.1.c 0.5.t 0.f.o 0.1.c 0.1a.o 0.1.x 0.5.b 1.4.x 0.6.b 0.1.e 3.6.e 0.2.s 0.3.o
1.a.e 0.2.s 0.3.o 11.25.t b.21.m f.2.o 1.4.o 1.2.o a.1.o 1.3.o 5.6.o 1.1.o 1.1.o 1.1.o 4.1.t b.2.o
4.5.o 5.4.o 2.10.o 29.89.o 0.1.s 0.1.t 0.122.o 45.1a.o 1.f2.o 0.14.e 4e.1c2.o 1.153.o 100.300.o
e5.6.o 4.3.m 7.7.o 7f.1.m 60.20.m 0.200.o 0.1.x 0.4.o 3.19.o 9.4.m 2.1.o 5.2.o 5.3.o 59.2.m 0.2.o
3.1.o 5a.1.o c4.30.o 2d.2.o 31.10.o 1c.3.o 32.f.o c.4.o a7.4.o 63.2.o 1f.1.o 19c0.40.o 5690.37.o
146.3.o 5f.4.m 0.1.o 0.a.m 0.2.o 1e.2.m 50.2.m e.22.o 66.1.o 79.1.m 3.1.m 4.1.m 19.2.m 1.4.o 0.1.m
b.2.t 3a.4.o 4c.2.m 1a.12.m d.1.m 26.8.m 19.b.m 2e.3.m 30.1.m 2.4.m 2.2.m 27.1.m 43.6.m 2.2.m 2.2.m
c.1.m 8.1.m 2f.1.m 33.1.m 1.3.m 2.2.m 5.2.m 1.1.m 2a.2.m 8.1.m 73.2.o 79.1.m 2.1.m 4.1.m 4f2f.1.r
0.1.m 0.a.r 0.1.s 0.26.r 0.73.a 0.10.o 0.16b.a 0.12.o 0.40.a 0.2.o 0.36.a 0.8.o 20.d.a 0.3.o 0.10.m
0.a.o 6.10.m 0.20.o 0.1.c 0.1.o 0.1.c 1.1.o 0.1.c 0.9.o 0.1.t 0.2.o 0.2.s 0.5.o 0.2.t 0.1.o 4.8d.a
2.1.b 1.2.o 0.3.t 0.5.o 0.1.s 0.1.c 0.1.s 0.2.c 0.a.e 0.1.c 0.6.o 1a.6.o 1a.b.o 7a.2.t 0.3.o 0.2.t
1.16.o 103.1.o 3e.4d.o 3.11.o 5c.1.m e2.1.m 0.1b.e 7a.5.m 485.11c.r 3.1.o 0.e1.r 0.f.m 0.26.r 2.8.m
0.a5.r 0.2.m 4.4b.r 3.7.o 0.1c0.r 0.24.a 0.4.m 8.1a.n 0.1c.r 3.5.m 0.1.o 0.21.r d0.1f.n 1.2a.r 1.2.m
0.5.r 10.9.a 0.e.o 21.6.m 0.28.r 8.16.a 0.b.m 0.9.a 16.12.r 0.4.m 0.71.r a.1.m 36.f.m b.14.o a.1.m
2.2.m a.3.m 31.4.m 2.2.m 7.1.m 3d.3.m 24.5.m 1.8.m 3e.1.m c.2.m 34.9.m a.4.m 2.1.m 5f.3.m 2.1.m
1.2.m 6.1.m 2.1.m 9d.1.m 3.8.m 15.2.m 39.2.m 3.1.m 25.f.m 46.6.m d.1.m 1.1.m 1.1.m e.2.m 55.8.m
2.3.m 1.1.m 17.1.m 54.6.m 1.1.m 4.2.m 1.2.m ee.4.m 6.2.m 1.2.m 1b.2.m 55.8.m 2.1.m 1.2.m 1f.d.o
3e.1.m 1.1.m 2.6.m 1.1.m 65.1.m 1.1.m 2.4.m 1.5.m 103.9.m 1.2.m 100.2.m 1.1.m 4.1.m 90.8.m 4.1.m
20.6.m 2.2.m 28.6.m 2.4.m 8.1.m 9.6.m 2.3.m 2e.d.m 1.2.m c6.1.m 1.3.m 1.1.m c9.e.m 54.16.m 2.7.m
1.2.m 1.2.m 7a.15.m 1.1.m 48.2.m 3.1.m 1.1.m 15b.2.m b.2.m 34.5.m 5.1.m 1.1.m 17.1.m 7a.8.o 0.4.t
0.11.o 144e.1.m 6.f.m 2cc8.c.m 3.3.m 9c0.5.m 3b.7.m 418.1.m 3f.4.m 4f.1.o 1.1.m 4cb8.2.m 1.4.b
f5c.d6.o 1a.a.e 0.1f7.o f.47.m 220.3.m 9.8.b 0.8.m 2.7.m 1e.4.m 3b.59.o 0.3.m 0.4b.o 70.57.o 36a.1.o
19.1.o 1f.1.o 19.1.o 1f.1.o 19.1.o 1f.1.o 19.1.o 1f.1.o 19.1.o a.32.e 200.37.m 4.32.m 8.1.m e.1.m
16.15.m 550.2b.m 64.1.m a0.7.m 177.1.m 3d.4.m f.1.t 1ec.4.m fe.2.m f3.1.m 2.1.m 7.2.m 5.1.m 10a.d0.r
0.7.m 29.44.r 0.7.m 0.15.r 311.24b.a 34.206.o a.b.e 0.5.o 1f.1.o 3a.6.o 3d.1.o b2.990.o 0.a.e 0.1.o
c0406.7f.b 80.f0.m"

/-- The characters that are not simply written from left to right. -/
def runs : Array (Run Direction) :=
  readFields (placeRun ofLetter) 0 #[] (tableFields latinText ++ tableFields otherText)

end Direction

def direction (c : Char) : Direction :=
  Run.valueOf Direction.runs .leftToRight c

end Recrawl.Unicode
