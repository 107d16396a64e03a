import Recrawl.Unicode.Run

/-!
How the letters of cursive scripts join their neighbours.
-/
namespace Recrawl.Unicode

/-- The joining types that the rules for names tell apart. -/
inductive Joining
  | none
  | left
  | right
  | both
  | causing
  | transparent
  deriving DecidableEq, Repr

namespace Joining

def ofLetter : List Char → Joining
  | ['L'] => left
  | ['R'] => right
  | ['D'] => both
  | ['C'] => causing
  | ['T'] => transparent
  | _ => none

/-- The characters that join, and those that joins pass through. -/
def runs : Array (Run Joining) := runsOf ofLetter "
ad.1.T 252.70.T 113.7.T 107.2d.T 1.1.T 1.2.T 1.2.T 1.1.T 48.b.T 1.1.T 3.1.D 1.4.R 0.1.D 0.1.R
0.1.D 0.1.R 0.5.D 0.4.R 0.d.D 0.1.C 0.7.D 0.1.R 0.2.D 0.15.T e.2.D 0.1.T 0.3.R 1.3.R 0.10.D
0.12.R 0.26.D 0.1.R 0.2.D 0.9.R 0.1.D 0.1.R 0.1.D 0.1.R 0.2.D 0.2.R 1.1.R 0.7.T 2.6.T 2.2.T
1.4.T 0.2.R a.3.D 2.1.D f.1.T 0.1.R 0.1.T 0.3.D 0.5.R 0.4.D 0.1.R 0.9.D 0.1.R 0.1.D 0.1.R 0.1.D
0.1.R 0.2.D 0.1.R 0.1b.T 2.1.R 0.b.D 0.3.R 0.f.D 0.2.R 0.4.D 0.1.R 0.1.D 0.2.R 0.3.D 0.2.R 0.6.D
26.b.T 19.21.D 0.9.T 6.1.C 2.1.T 18.4.T 1.9.T 1.3.T 1.5.T 12.1.R 0.5.D 0.2.R 0.1.D 0.1.R 0.a.D
0.1.R 0.1.D 0.3.R 0.3.T 4.1.D 1.4.D 1.1.R 0.1.D 0.2.R 5.13.R 0.3.C 0.1.D 2.5.D 0.1.R 0.1.D 7.9.T
0.a.D 0.3.R 1.1.R 0.2.D 0.2.R 0.6.D 0.1.R 0.f.D 1.18.T 1.20.T 37.1.T 1.1.T 4.8.T 4.1.T 3.7.T
a.2.T 1d.1.T 3a.1.T 4.4.T 8.1.T 14.2.T 1a.1.T 2.2.T 39.1.T 4.2.T 4.2.T 2.3.T 3.1.T 1e.2.T 3.1.T
b.2.T 39.1.T 4.5.T 1.2.T 4.1.T 14.2.T 16.6.T 1.1.T 3a.1.T 2.1.T 1.4.T 8.1.T 7.2.T b.2.T 1e.1.T
3d.1.T c.1.T 32.1.T 3.1.T 37.1.T 1.3.T 5.3.T 1.4.T 7.2.T b.2.T 1d.1.T 3a.1.T 2.1.T 6.1.T 5.2.T
14.2.T 1c.2.T 39.2.T 4.4.T 8.1.T 14.2.T 1d.1.T 48.1.T 7.3.T 1.1.T 5a.1.T 2.7.T c.8.T 62.1.T
2.9.T b.7.T 49.2.T 1b.1.T 1.1.T 1.1.T 37.e.T 1.5.T 1.2.T 5.b.T 1.24.T 9.1.T 66.4.T 1.6.T 1.2.T
2.2.T 19.2.T 4.3.T 10.4.T d.1.T 2.2.T 6.1.T f.1.T 2bf.3.T 3b2.3.T 1d.2.T 1e.2.T 1e.2.T 40.2.T
1.7.T 8.1.T 2.b.T 9.1.T 29.1.D 2.1.C 0.3.T 1.1.T 10.59.D c.2.T 0.22.D 0.1.T 0.1.D 75.3.T 4.2.T
9.1.T 6.3.T db.2.T 2.1.T 3a.1.T 1.7.T 1.1.T 1.1.T 2.8.T 6.a.T 2.1.T 30.3d.T 13.4.T 30.1.T 1.5.T
1.1.T 5.1.T 28.9.T c.2.T 20.4.T 2.2.T 1.3.T 38.1.T 1.2.T 3.1.T 1.3.T 3a.8.T 2.2.T 98.3.T 1.d.T
1.7.T 4.1.T 6.1.T 3.2.T c6.40.T 20b.1.T 1.1.C 0.2.T 1a.5.T 31.5.T 5.6.T 60.21.T bfe.3.T 8d.1.T
60.20.T 22a.4.T 6b.2.T 75d4.4.T 1.a.T 20.2.T 50.2.T 110.1.T 3.1.T 4.1.T 19.2.T 5.1.T 13.32.D
0.1.L 51.2.T 1a.12.T d.1.T 26.8.T 19.b.T 2e.3.T 30.1.T 2.4.T 2.2.T 27.1.T 43.6.T 2.2.T 2.2.T
c.1.T 8.1.T 2f.1.T 33.1.T 1.3.T 2.2.T 5.2.T 1.1.T 2a.2.T 8.1.T ee.1.T 2.1.T 4.1.T 4f30.1.T
2e1.10.T 10.10.T cf.1.T f9.3.T 201.1.T e2.1.T 95.5.T 686.3.T 1.2.T 5.4.T 28.3.T 4.1.T 80.5.D
0.1.R 1.1.R 1.2.R 2.1.L 0.5.R 0.4.D 0.1.L 0.5.D 0.1.R 0.3.D 0.1.R 2.1.R 0.2.T 4.4.D 0.1.R 90.1.D
0.1.R 0.1.D 0.3.R 0.3.D 0.1.R 0.2.D 0.1.R 0.1.D 0.2.R 0.1.D 0.1.R 17.4.R 0.2.D 151.1.L 0.21.D
0.1.R 0.1.D 0.4.T 41.5.T 13d.2.T 15.1.R 0.2.D 1.5.D 2f.6.T 30.3.D 0.1.R 0.11.D 1.b.T 0.3.D 0.1.R
1b.4.D 0.2.R 0.c.D 0.4.T 2a.1.D 1.2.D 0.3.R 1.1.D 0.2.R 0.2.D 0.1.R 0.2.D 1.1.D 0.2.R 0.1.D
4.1.R 0.1.D 0.1.L 35.1.T 36.f.T 29.1.T 2.2.T a.3.T 31.4.T 2.2.T 7.1.T 3d.3.T 24.5.T 1.8.T 3e.1.T
c.2.T 34.9.T a.4.T 2.1.T 5f.3.T 2.1.T 1.2.T 6.1.T 2.1.T 9d.1.T 3.8.T 15.2.T 39.2.T 3.1.T 25.7.T
3.5.T 46.6.T d.1.T 1.1.T 1.1.T e.2.T 55.8.T 2.3.T 1.1.T 17.1.T 54.6.T 1.1.T 4.2.T 1.2.T ee.4.T
6.2.T 1.2.T 1b.2.T 55.8.T 2.1.T 1.2.T 6a.1.T 1.1.T 2.6.T 1.1.T 65.1.T 1.1.T 2.4.T 1.5.T 103.9.T
1.2.T 100.2.T 1.1.T 4.1.T 90.4.T 2.2.T 4.1.T 20.a.T 28.6.T 2.4.T 8.1.T 9.6.T 2.3.T 2e.d.T 1.2.T
c6.1.T 1.3.T 1.1.T c9.7.T 1.6.T 1.1.T 52.16.T 2.7.T 1.2.T 1.2.T 7a.6.T 3.1.T 1.2.T 1.7.T 1.1.T
48.2.T 3.1.T 1.1.T 15b.2.T b.2.T 34.5.T 5.1.T 1.1.T 17.1.T 14d5.11.T 6.f.T 2cc8.c.T 3.3.T
9c0.5.T 3b.7.T 418.1.T 3f.4.T 51.1.T 4cb8.2.T 1.4.T 125c.2e.T 2.17.T 220.3.T 9.10.T 2.7.T 1e.4.T
94.3.T 7bb.37.T 4.32.T 8.1.T e.1.T 16.5.T 1.f.T 550.7.T 1.11.T 2.7.T 1.2.T 1.5.T 64.1.T a0.7.T
177.1.T 3d.4.T 1fc.4.T fe.2.T f3.1.T 2.1.T 7.2.T 5.1.T 1da.7.T 29.44.D 0.8.T c16b5.1.T 1e.60.T
80.f0.T"

end Joining

def joining (c : Char) : Joining :=
  Run.valueOf Joining.runs .none c

end Recrawl.Unicode
