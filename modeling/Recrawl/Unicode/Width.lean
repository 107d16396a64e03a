import Recrawl.Unicode.Run

/-!
The number of columns that a character takes in a line of text.
-/
namespace Recrawl.Unicode

/-- The characters that do not take one column, with the number of columns they take: none, two, or
three. -/
def widthRuns : Array (Run Nat) := runsOf hexNumber "
ad.1.0 252.70.0 113.7.0 107.2d.0 1.1.0 1.2.0 1.2.0 1.1.0 3d.1.0 a.b.0 1.1.0 2e.15.0 10.1.0
65.7.0 2.6.0 2.2.0 1.4.0 21.1.0 1.1.0 1e.1b.0 5b.b.0 3a.9.0 9.1.0 18.4.0 1.9.0 1.3.0 1.5.0
2b.3.0 34.2.0 5.9.0 2a.39.0 37.1.0 1.1.0 4.8.0 4.1.0 3.7.0 a.2.0 1d.1.0 3a.1.0 1.1.0 2.4.0 8.1.0
9.1.0 a.2.0 1a.1.0 2.2.0 39.1.0 4.2.0 4.2.0 2.3.0 3.1.0 1e.2.0 3.1.0 b.2.0 39.1.0 4.5.0 1.2.0
4.1.0 14.2.0 16.6.0 1.1.0 3a.1.0 1.2.0 1.4.0 8.1.0 7.3.0 a.2.0 1e.1.0 3b.1.0 1.1.0 c.1.0 9.1.0
28.1.0 3.1.0 37.1.0 1.3.0 5.3.0 1.4.0 7.2.0 b.2.0 1d.1.0 3a.1.0 2.2.0 1.1.0 3.3.0 1.4.0 7.2.0
b.2.0 1c.2.0 39.2.0 1.1.0 2.4.0 8.2.0 8.1.0 a.2.0 1d.1.0 48.1.0 4.1.0 2.3.0 1.1.0 8.1.0 51.1.0
2.7.0 c.8.0 62.1.0 2.9.0 b.7.0 49.2.0 1b.1.0 1.1.0 1.1.0 37.e.0 1.5.0 1.2.0 5.b.0 1.24.0 9.1.0
66.4.0 1.6.0 1.2.0 2.2.0 19.2.0 4.3.0 10.4.0 d.1.0 2.2.0 6.1.0 f.1.0 62.60.2 0.a0.0 15d.3.0
3b2.4.0 1c.3.0 1d.2.0 1e.2.0 30.1.2 f.2.0 1.7.0 8.1.0 2.b.0 4.1.3 4.1.0 2d.5.0 75.2.0 22.1.0
76.3.0 4.2.0 9.1.0 6.3.0 db.2.0 2.1.0 3a.1.0 1.7.0 1.1.0 1.1.0 2.8.0 6.a.0 2.1.0 30.2e.0 2.c.0
14.4.0 30.a.0 4.3.0 26.9.0 c.2.0 20.4.0 2.6.0 38.1.0 1.2.0 3.1.0 1.5.0 38.8.0 2.2.0 98.3.0 1.d.0
1.7.0 4.1.0 6.1.0 3.2.0 c6.40.0 20b.5.0 1a.5.0 31.10.0 60.21.0 229.2.2 d.2.2 be.4.2 3.1.2 2.1.2
209.2.2 15.2.2 1a.8.2 10.c.2 2b.1.2 a.6.2 3.1.2 d.1.2 8.2.2 11.2.2 5.2.2 8.1.2 5.1.2 15.1.2
7.2.2 1.1.2 4.1.2 2.1.2 7.1.2 4.2.2 1c.1.2 23.1.2 1.1.2 4.3.2 1.1.2 3d.3.2 18.1.2 e.1.2 35b.2.2
33.1.2 4.1.2 199.3.0 ee.20.0 80.1a.2 1.59.2 c.d6.2 1a.3a.2 0.6.0 0.f.2 2.56.2 2.2.0 0.65.2
5.2b.2 1.33.2 0.1.0 0.2a.2 1.56.2 9.30.2 1.28.2 8.723d.2 3.37.2 1a8.4.0 1.a.0 20.2.0 50.2.0
110.1.0 3.1.0 4.1.0 19.2.0 5.1.0 97.2.0 1a.12.0 8.1.0 4.1.0 26.8.0 19.b.0 1.1.0 c.1d.2 3.3.0
30.1.0 2.4.0 2.2.0 2.1.0 24.1.0 43.6.0 2.2.0 2.2.0 c.1.0 8.1.0 2f.1.0 33.1.0 1.3.0 2.2.0 5.2.0
1.1.0 2a.2.0 8.1.0 ee.1.0 2.1.0 4.1.0 12.2ba4.2 c.17.0 4.31.0 2104.200.2 1e.1.0 2e1.10.0 0.a.2
6.10.0 0.23.2 1.13.2 1.4.2 93.1.0 1.60.2 3d.3.0 3f.7.2 9.9.0 204.1.0 e2.1.0 95.5.0 686.3.0 1.2.0
5.4.0 28.3.0 4.1.0 a5.2.0 23d.4.0 41.5.0 13d.2.0 4d.6.0 46.b.0 31.4.0 7b.1.0 36.f.0 29.1.0 2.2.0
a.3.0 31.4.0 2.2.0 7.1.0 3d.3.0 24.5.0 1.8.0 3e.1.0 c.2.0 34.9.0 1.1.0 1.2.0 5.4.0 2.1.0 5f.3.0
2.4.0 6.1.0 2.1.0 9d.1.0 3.8.0 15.2.0 39.2.0 1.1.0 1.1.0 c.1.0 9.1.0 e.7.0 3.5.0 43.1.0 2.6.0
1.1.0 2.1.0 1.3.0 4.5.0 e.2.0 55.8.0 2.3.0 1.1.0 17.1.0 51.1.0 2.6.0 1.1.0 2.1.0 1.2.0 1.2.0
eb.1.0 2.4.0 6.2.0 1.2.0 1b.2.0 55.8.0 2.1.0 1.2.0 6a.1.0 1.1.0 2.8.0 65.1.0 1.1.0 2.4.0 1.5.0
103.9.0 1.2.0 f5.1.0 a.5.0 1.1.0 1.1.0 90.4.0 2.2.0 4.1.0 20.a.0 28.6.0 2.4.0 8.1.0 9.6.0 2.3.0
28.13.0 1.2.0 c6.1.0 1.3.0 1.1.0 c9.7.0 1.6.0 1.1.0 52.16.0 2.7.0 1.2.0 1.2.0 7a.6.0 3.1.0 1.2.0
1.9.0 48.2.0 3.1.0 1.1.0 15b.2.0 b.3.0 33.5.0 5.3.0 17.1.0 14e5.1.0 6.f.0 2cc8.c.0 3.3.0 9c0.5.0
3b.7.0 418.1.0 3f.4.0 4d.4.2 0.1.0 b.2.0 0.5.2 9.1cd6.2 29.20.2 61.73.2 21fd.4.2 1.7.2 1.2.2
1.123.2 f.1.2 1d.3.2 2.1.2 e.4.2 8.18c.2 9a1.2.0 1.4.0 125c.2e.0 2.17.0 21e.5.0 3.16.0 2.7.0
1e.4.0 94.3.0 bb.57.2 9.17.2 689.37.0 4.32.0 8.1.0 e.1.0 16.5.0 1.f.0 550.7.0 1.11.0 2.7.0 1.2.0
1.5.0 64.1.0 a0.7.0 177.1.0 3d.4.0 1fc.4.0 fe.2.0 f3.1.0 2.1.0 7.2.0 5.1.0 1da.7.0 6d.7.0
6b9.1.2 ca.1.2 be.1.2 2.a.2 65.3.2 d.2c.2 4.9.2 7.2.2 e.6.2 9a.21.2 c.9.2 1.46.2 1.16.2 c.2b.2
4.5.2 c.11.2 3.1.2 3.47.2 1.1.2 1.bb.2 2.3f.2 d.4.2 1.18.2 12.1.2 1a.2.2 d.1.2 56.55.2 30.46.2
6.1.2 3.3.2 2.4.2 3.4.2 b.2.2 7.9.2 e3.c.2 4.1.2 11b.2f.2 1.a.2 1.b9.2 70.d.2 3.b.2 3.39.2 1.1.2
4.10.2 2.c.2 4.a.2 507.fffe.2 2.fffe.2 a0002.1000.0"

/-- Columns of a character that stands alone: none for one that is drawn with the one before it or
not at all, two for wide ones, three for the widest, and one for controls. -/
def columns (c : Char) : Nat :=
  if c.toNat < 0xA0 then 1 else Run.valueOf widthRuns 1 c

end Recrawl.Unicode
