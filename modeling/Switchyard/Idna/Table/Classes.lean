/-
Classes of characters that matter for the order and direction of text.

Each table covers all code points in order as runs; an entry starts with the length of its run in
hexadecimal.
-/
namespace Switchyard.Idna.Table

/-- The combining class follows the length after a dot. -/
def combining : List String :=
  ["300.0 15.e6 1.e8 4.dc 1.e8 1.d8 5.dc 2.ca 4.dc 2.ca b.dc 5.1 4.dc 8.e6 1.f0 1.e6 3.dc 3.e6",
   "2.dc 1.0 3.e6 4.dc 1.e6 1.e8 2.dc 1.e6 1.e9 2.ea 1.e9 2.ea 1.e9 d.e6 113.0 5.e6 109.0 1.dc",
   "4.e6 1.dc 3.e6 1.de 1.dc 6.e6 6.dc 2.e6 1.dc 2.e6 1.de 1.e4 1.e6 1.a 1.b 1.c 1.d 1.e 1.f 1.10",
   "1.11 1.12 2.13 1.14 1.15 1.16 1.0 1.17 1.0 1.18 1.19 1.0 1.e6 1.dc 1.0 1.12 48.0 8.e6 1.1e",
   "1.1f 1.20 30.0 1.1b 1.1c 1.1d 1.1e 1.1f 1.20 1.21 1.22 2.e6 2.dc 5.e6 1.dc 2.e6 1.dc 10.0",
   "1.23 65.0 7.e6 2.0 4.e6 1.dc 1.e6 2.0 2.e6 1.0 1.dc 2.e6 1.dc 23.0 1.24 1e.0 1.e6 1.dc 2.e6",
   "1.dc 2.e6 3.dc 1.e6 2.dc 1.e6 1.dc 3.e6 1.dc 1.e6 1.dc 1.e6 1.dc 1.e6 1.dc 2.e6 a0.0 7.e6",
   "1.dc 1.e6 9.0 1.dc 18.0 4.e6 1.0 9.e6 1.0 3.e6 1.0 5.e6 2b.0 3.dc 3c.0 1.e6 3.dc 4.e6 2a.0",
   "5.e6 5.dc e.e6 1.0 1.dc 2.e6 1.dc 2.e6 1.dc 3.e6 3.dc 1.1b 1.1c 1.1d 3.e6 1.dc 2.e6 2.dc 5.e6",
   "3c.0 1.7 10.0 1.9 3.0 1.e6 1.dc 2.e6 67.0 1.7 10.0 1.9 30.0 1.e6 3d.0 1.7 10.0 1.9 6e.0 1.7",
   "10.0 1.9 6e.0 1.7 10.0 1.9 7f.0 1.9 6e.0 1.7 10.0 1.9 7.0 1.54 1.5b 65.0 1.7 10.0 1.9 6d.0",
   "2.9 10.0 1.9 7c.0 1.9 6d.0 2.67 1.9 d.0 4.6b 6c.0 2.76 1.9 d.0 4.7a 4c.0 2.dc 1b.0 1.dc 1.0",
   "1.dc 1.0 1.d8 37.0 1.81 1.82 1.0 1.84 5.0 4.82 2.0 1.82 1.0 2.e6 1.9 1.0 2.e6 3e.0 1.dc 70.0",
   "1.7 1.0 2.9 52.0 1.dc 2cf.0 3.e6 3b4.0 2.9 1e.0 1.9 9d.0 1.9 a.0 1.e6 cb.0 1.e4 8f.0 1.de",
   "1.e6 1.dc db.0 1.e6 1.dc 47.0 1.9 14.0 8.e6 2.0 1.dc 30.0 5.e6 6.dc 2.e6 1.dc 1.0 2.dc 2.e6",
   "2.dc 5.e6 1.dc 4.e6 65.0 1.7 f.0 1.9 26.0 1.e6 1.dc 7.e6 36.0 2.9 3a.0 1.7 b.0 2.9 43.0 1.7",
   "98.0 3.e6 1.0 1.1 5.dc 2.e6 4.dc 1.e6 1.0 7.1 4.0 1.dc 6.0 1.e6 3.0 2.e6 c6.0 2.e6 1.dc 7.e6",
   "1.dc 2.e6 1.ea 1.d6 1.dc 1.ca 25.e6 1.e8 2.e4 1.dc 1.da 1.e6 1.e9 1.dc 1.e6 1.dc 2d0.0 2.e6",
   "2.1 4.e6 3.1 2.e6 4.0 1.e6 3.0 2.1 1.e6 1.dc 1.e6 2.1 4.dc 1.e6 bfe.0 3.e6 8d.0 1.9 60.0",
   "20.e6 22a.0 1.da 1.e4 1.e8 1.de 2.e0 69.0 2.8 75d4.0 1.e6 4.0 a.e6 20.0 2.e6 50.0 2.e6 114.0",
   "1.9 25.0 1.9 97.0 1.9 1b.0 12.e6 39.0 3.dc 25.0 1.9 5f.0 1.7 c.0 1.9 ef.0 1.e6 1.0 2.e6 1.dc",
   "2.0 2.e6 5.0 2.e6 1.0 1.e6 34.0 1.9 f6.0 1.9 4f30.0 1.1a 301.0 7.e6 7.dc 2.e6 3cd.0 1.dc e2.0",
   "1.dc 95.0 5.e6 692.0 1.dc 1.0 1.e6 28.0 1.e6 1.1 1.dc 4.0 1.9 a5.0 1.e6 1.dc 23d.0 4.e6 183.0",
   "2.e6 50.0 3.dc 46.0 2.dc 3.e6 1.dc 1.e6 4.dc 31.0 1.e6 1.dc 1.e6 1.dc c0.0 1.9 29.0 1.9 e.0",
   "1.9 39.0 1.9 1.7 45.0 3.e6 30.0 2.9 3e.0 1.7 4c.0 1.9 9.0 1.7 6a.0 1.9 1.7 b2.0 1.7 1.9 50.0",
   "2.7 10.0 1.9 18.0 7.e6 3.0 5.e6 cd.0 1.9 3.0 1.7 17.0 1.e6 63.0 1.9 1.7 fb.0 1.9 1.7 7e.0 1.9",
   "76.0 1.9 1.7 73.0 1.9 10d.0 1.9 1.7 102.0 2.9 4.0 1.7 9c.0 1.9 53.0 1.9 12.0 1.9 51.0 1.9",
   "1a5.0 1.9 102.0 1.7 1.0 2.9 51.0 1.9 1a9.0 2.9 4bad.0 5.1 3b.0 7.e6 4b9.0 2.6 4cac.0 1.1",
   "14c6.0 2.d8 3.1 3.0 1.e2 5.d8 8.0 8.dc 2.0 5.e6 2.dc 1e.0 4.e6 94.0 3.e6 dbb.0 7.e6 1.0 11.e6",
   "2.0 7.e6 1.0 2.e6 1.0 5.e6 64.0 1.e6 a0.0 7.e6 177.0 1.e6 3d.0 4.e6 1fc.0 2.e8 1.dc 1.e6",
   "3e0.0 7.dc 6d.0 6.e6 1.7 f16b5.0"]

/-- A letter names the direction: `L` left to right, `R` right to left, `K` Arabic letter, `N` Arabic
number, `Y` European number, `S` its separator, `T` its terminator, `Z` common separator, `M` mark,
`V` boundary, `O` neutral, `X` anything else. -/
def direction : List String :=
  ["9V 5X eV 5X 2O 3T 5O 1S 1Z 1S 2Z aY 1Z 6O 1aL 6O 1aL 4O 6V 1X 1aV 1Z 1O 4T 4O 1L 2O 1V 2O 2T",
   "2Y 1O 1L 3O 1Y 1L 5O 17L 1O 1fL 1O 1c1L 2O 7L eO 2L eO 5L 9O 1L 11O 70M 4L 2O 8L 1O 5L 2O 1L",
   "1O 6eL 1O 8cL 7M 100L 1O 2L 2O 1T 1R 2dM 1R 1M 1R 2M 1R 2M 1R 1M 38R 6N 2O 1K 2T 1K 1Z 1K 2O",
   "bM 30K 15M aN 1T 2N 3K 1M 65K 7M 1N 1O 6M 2K 2M 1O 4M 2K aY 17K 1M 1eK 1bM 5bK bM fK 2bR 9M",
   "2R 4O 3R 1M 18R 4M 1R 9M 1R 3M 1R 5M 2bR 3M 4R 30K 2N 6K 8M 2aK 18M 1N 20M 37L 1M 1L 1M 4L 8M",
   "4L 1M 3L 7M aL 2M 1dL 1M 3aL 1M 4L 4M 8L 1M 14L 2M eL 2T 7L 1T 2L 1M 2L 2M 39L 1M 4L 2M 4L 2M",
   "2L 3M 3L 1M 1eL 2M 3L 1M bL 2M 39L 1M 4L 5M 1L 2M 4L 1M 14L 2M dL 1T 8L 6M 1L 1M 3aL 1M 2L 1M",
   "1L 4M 8L 1M 7L 2M bL 2M 1eL 1M 3dL 1M cL 1M 25L 6O 1T 1O 5L 1M 3L 1M 37L 1M 1L 3M 5L 3M 1L 4M",
   "7L 2M bL 2M 14L 7O 2L 1M 3aL 1M fL 2M 14L 2M 1cL 2M 39L 2M 4L 4M 8L 1M 14L 2M 1dL 1M 48L 1M",
   "7L 3M 1L 1M 5aL 1M 2L 7M 4L 1T 7L 8M 62L 1M 2L 9M bL 7M 49L 2M 1bL 1M 1L 1M 1L 1M 4O 33L eM",
   "1L 5M 1L 2M 5L bM 1L 24M 9L 1M 66L 4M 1L 6M 1L 2M 2L 2M 19L 2M 4L 3M 10L 4M dL 1M 2L 2M 6L 1M",
   "fL 1M 2bfL 3M 30L aO 66L 1O 27fL 1X 1aL 2O 75L 3M 1dL 2M 1eL 2M 1eL 2M 40L 2M 1L 7M 8L 1M 2L",
   "bM 7L 1T 1L 1M 12L aO 6L bO 3M 1V 1M 75L 2M 22L 1M 76L 3M 4L 2M 9L 1M 6L 3M 4L 1O 3L 2O 98L",
   "22O 17L 2M 2L 1M 3aL 1M 1L 7M 1L 1M 1L 1M 2L 8M 6L aM 2L 1M 30L 1fM 31L 4M 30L 1M 1L 5M 1L 1M",
   "5L 1M 28L 9M cL 2M 20L 4M 2L 2M 1L 3M 38L 1M 1L 2M 3L 1M 1L 3M 3aL 8M 2L 2M 98L 3M 1L dM 1L",
   "7M 4L 1M 6L 1M 3L 2M c6L 40M 1bdL 1O 1L 3O bL 3O dL 3O dL 3O dL 2O 1L bX 3V 1L 1R 18O 7X 1Z",
   "5T fO 1Z 1aO 1X 6V 4X 6V 1Y 3L 6Y 2S 3O 1L aY 2S 3O 11L 30T 21M fL 2O 1L 4O 1L 2O aL 1O 1L 3O",
   "5L 6O 1L 1O 1L 1O 1L 1O 4L 1T bL 2O 4L 5O 5L 4O 2L 10O 29L 3O 4L 82O 1S 1T 122O 45L 1aO 1L",
   "91O 19L bO 15L 28O 14Y 4eL 1c2O 1L 153O 100L 274O 2L 20O 1L 69O e5L 6O 4L 3M 7L 7O 7fL 1M 60L",
   "20M 5eO 22L 1aO 1L 59O cL d6O 1aL cO 4L 1X 4O 3L 19O 9L 4M 2L 1O 5L 2O 5L 3O 59L 2M 2O 3L 1O",
   "5aL 1O c4L 24O 39L 2O 31L 10O 1cL 3O 32L fO cL 4O a7L 4O 63L 2O 1fL 1O 19c0L 40O 5690L 37O",
   "146L 3O 5fL 4M 1O aM 2O 1eL 2M 50L 2M eL 22O 66L 1O 79L 1M 3L 1M 4L 1M 19L 2M 1L 4O 1M bL 2T",
   "3aL 4O 4cL 2M 1aL 12M dL 1M 26L 8M 19L bM 2eL 3M 30L 1M 2L 4M 2L 2M 27L 1M 43L 6M 2L 2M 2L 2M",
   "cL 1M 8L 1M 2fL 1M 33L 1M 1L 3M 2L 2M 5L 2M 1L 1M 2aL 2M 8L 1M 73L 2O 79L 1M 2L 1M 4L 1M",
   "4f2fL 1R 1M aR 1S 26R 1eeK 12O 7fK 1O 20V dK 3O 10M aO 6L 10M 20O 1Z 1O 1Z 1L 1O 1Z 9O 1T 2O",
   "2S 3O 1L 1O 2T 1O 4L 8fK 1V 1L 2O 3T 5O 1S 1Z 1S 2Z aY 1Z 6O 1aL 6O 1aL bO 7aL 2T 3O 2T 1L 7O",
   "1L 9V 5O 2V 101L 1O 3eL 4dO 3L dO 3L 1O 5cL 1M e2L 1M 1bY 7aL 5M 485L 11fR 1O e1R 3M 1R 2M 5R",
   "4M 28R 3M 4R 1M a5R 2M 52R 7O 1c0R 24K 4M 8K aN 6K 120R 1fN 2cR 2M 13R 3dK 3M 30R 16K bM 1fK",
   "12R 4M 7aR 1L 1M 36L fM bL 14O aL 1M 2L 2M aL 3M 31L 4M 2L 2M 7L 1M 3dL 3M 24L 5M 1L 8M 3eL",
   "1M cL 2M 34L 9M aL 4M 2L 1M 5fL 3M 2L 1M 1L 2M 6L 1M 2L 1M 9dL 1M 3L 8M 15L 2M 39L 2M 3L 1M",
   "25L 7M 3L 5M c3L 8M 2L 3M 1L 1M 17L 1M 54L 6M 1L 1M 4L 2M 1L 2M eeL 4M 6L 2M 1L 2M 1bL 2M 55L",
   "8M 2L 1M 1L 2M 1fL dO 3eL 1M 1L 1M 2L 6M 1L 1M 65L 3M 2L 4M 1L 5M 103L 9M 1L 2M 100L 2M 1L 1M",
   "4L 1M 90L 4M 2L 2M 4L 1M 20L 6M 2L 2M 28L 6M 2L 4M 8L 1M 9L 6M 2L 3M 2eL dM 1L 2M 196L 7M 1L",
   "6M 54L 16M 2L 7M 1L 2M 1L 2M 7aL 6M 3L 1M 1L 2M 1L 7M 1L 1M 48L 2M 3L 1M 1L 1M 15bL 2M bL 2M",
   "34L 5M 5L 1M 1L 1M 92L 8O 4T 11O 144eL 1M 6L fM 369aL 5M 3bL 7M 418L 1M 3fL 4M 4fL 1O 1L 1M",
   "4cb8L 2M 1L 4V 125cL 2eM 2L 17M 220L 3M 9L 8V 8M 2L 7M 1eL 4M 3bL 2O 15L 42O 3M 1O baL 57O",
   "384L 1O 39L 1O 39L 1O 39L 1O 39L 1O aL 32Y 200L 37M 4L 32M 8L 1M eL 1M 16L 5M 1L fM 550L 7M",
   "1L 11M 2L 7M 1L 2M 1L 5M 64L 1M a0L 7M 177L 1M 3dL 4M fL 1T 1ecL 4M 310L d0R 7M 6dR 7M 325R",
   "50K 40R 50K b0R f0K 2O eK 100R 2cO 4L 64O cL fO 2L fO 1L fO 1L 25O aL bY 5O 1fL 1O 3aL 6O 3dL",
   "1O b2L 6O 9aL 3d8O 4L 11O 3L dO 3L 77O 4L 5fO 6L cO 4L 1O fL cO 4L 38O 8L aO 6L 28O 8L 1eO 2L",
   "2O 4eL 154O cL eO 2L dO 3L 9O 7L 2eO 1L 7O 8L eO 4L 9O 7L 9O 7L 93O 1L 37O 25L aY 404L 2V",
   "fffeL 2V fffeL 2V fffeL 2V fffeL 2V fffeL 2V fffeL 2V fffeL 2V fffeL 2V fffeL 2V fffeL 2V",
   "fffeL 2V fffeL 102V f0M e10V effeL 2V fffeL 2V fffeL 2V 0L"]

/-- A letter names how the character joins its neighbours: `L` left, `R` right, `Y` both, `T` not counted,
`U` neither. -/
def joining : List String :=
  ["adU 1T 252U 70T 113U 7T 107U 2dT 1U 1T 1U 2T 1U 2T 1U 1T 48U bT 1U 1T 3U 1Y 1U 4R 1Y 1R 1Y 1R",
   "5Y 4R dY 1U 7Y 1R 2Y 15T eU 2Y 1T 3R 1U 3R 10Y 12R 26Y 1R 2Y 9R 1Y 1R 1Y 1R 2Y 2R 1U 1R 7T 2U",
   "6T 2U 2T 1U 4T 2R aU 3Y 2U 1Y fU 1T 1R 1T 3Y 5R 4Y 1R 9Y 1R 1Y 1R 1Y 1R 2Y 1R 1bT 2U 1R bY 3R",
   "fY 2R 4Y 1R 1Y 2R 3Y 2R 6Y 26U bT 19U 21Y 9T 9U 1T 18U 4T 1U 9T 1U 3T 1U 5T 12U 1R 5Y 2R 1Y",
   "1R aY 1R 1Y 3R 3T 4U 1Y 1U 4Y 1U 1R 1Y 2R 5U 13R 3U 1Y 2U 5Y 1R 9U 8T aY 3R 1U 1R 2Y 2R 6Y 1R",
   "fY 1U 18T 1U 20T 37U 1T 1U 1T 4U 8T 4U 1T 3U 7T aU 2T 1dU 1T 3aU 1T 4U 4T 8U 1T 14U 2T 1aU 1T",
   "2U 2T 39U 1T 4U 2T 4U 2T 2U 3T 3U 1T 1eU 2T 3U 1T bU 2T 39U 1T 4U 5T 1U 2T 4U 1T 14U 2T 16U",
   "6T 1U 1T 3aU 1T 2U 1T 1U 4T 8U 1T 7U 2T bU 2T 1eU 1T 3dU 1T cU 1T 32U 1T 3U 1T 37U 1T 1U 3T",
   "5U 3T 1U 4T 7U 2T bU 2T 1dU 1T 3aU 1T 2U 1T 6U 1T 5U 2T 14U 2T 1cU 2T 39U 2T 4U 4T 8U 1T 14U",
   "2T 1dU 1T 48U 1T 7U 3T 1U 1T 5aU 1T 2U 7T cU 8T 62U 1T 2U 9T bU 7T 49U 2T 1bU 1T 1U 1T 1U 1T",
   "37U eT 1U 5T 1U 2T 5U bT 1U 24T 9U 1T 66U 4T 1U 6T 1U 2T 2U 2T 19U 2T 4U 3T 10U 4T dU 1T 2U",
   "2T 6U 1T fU 1T 2bfU 3T 3b2U 3T 1dU 2T 1eU 2T 1eU 2T 40U 2T 1U 7T 8U 1T 2U bT 9U 1T 29U 1Y 3U",
   "3T 1U 1T 10U 59Y cU 2T 22Y 1T 1Y 75U 3T 4U 2T 9U 1T 6U 3T dbU 2T 2U 1T 3aU 1T 1U 7T 1U 1T 1U",
   "1T 2U 8T 6U aT 2U 1T 30U 1fT 31U 4T 30U 1T 1U 5T 1U 1T 5U 1T 28U 9T cU 2T 20U 4T 2U 2T 1U 3T",
   "38U 1T 1U 2T 3U 1T 1U 3T 3aU 8T 2U 2T 98U 3T 1U dT 1U 7T 4U 1T 6U 1T 3U 2T c6U 40T 20bU 1T 2U",
   "2T 1aU 5T 31U 5T 5U 6T 60U 21T bfeU 3T 8dU 1T 60U 20T 22aU 4T 6bU 2T 75d4U 4T 1U aT 20U 2T",
   "50U 2T 110U 1T 3U 1T 4U 1T 19U 2T 5U 1T 13U 32Y 1L 51U 2T 1aU 12T dU 1T 26U 8T 19U bT 2eU 3T",
   "30U 1T 2U 4T 2U 2T 27U 1T 43U 6T 2U 2T 2U 2T cU 1T 8U 1T 2fU 1T 33U 1T 1U 3T 2U 2T 5U 2T 1U",
   "1T 2aU 2T 8U 1T eeU 1T 2U 1T 4U 1T 4f30U 1T 2e1U 10T 10U 10T cfU 1T f9U 3T 201U 1T e2U 1T 95U",
   "5T 686U 3T 1U 2T 5U 4T 28U 3T 4U 1T 80U 5Y 1R 1U 1R 1U 2R 2U 1L 5R 4Y 1L 5Y 1R 3Y 1R 2U 1R 2T",
   "4U 4Y 1R 90U 1Y 1R 1Y 3R 3Y 1R 2Y 1R 1Y 2R 1Y 1R 17U 4R 2Y 151U 1L 21Y 1R 1Y 4T 183U 2T 50U",
   "3T 30U 3Y 1R 11Y 1U bT 3Y 1R 1bU 4Y 2R cY 4T 2aU 1Y 1U 2Y 3R 1U 1Y 2R 2Y 1R 2Y 1U 1Y 2R 1Y 4U",
   "1R 1Y 1L 35U 1T 36U fT 29U 1T 2U 2T aU 3T 31U 4T 2U 2T 7U 1T 3dU 3T 24U 5T 1U 8T 3eU 1T cU 2T",
   "34U 9T aU 4T 2U 1T 5fU 3T 2U 1T 1U 2T 6U 1T 2U 1T 9dU 1T 3U 8T 15U 2T 39U 2T 3U 1T 25U 7T 3U",
   "5T c3U 8T 2U 3T 1U 1T 17U 1T 54U 6T 1U 1T 4U 2T 1U 2T eeU 4T 6U 2T 1U 2T 1bU 2T 55U 8T 2U 1T",
   "1U 2T 6aU 1T 1U 1T 2U 6T 1U 1T 65U 3T 2U 4T 1U 5T 103U 9T 1U 2T 100U 2T 1U 1T 4U 1T 90U 4T 2U",
   "2T 4U 1T 20U aT 28U 6T 2U 4T 8U 1T 9U 6T 2U 3T 2eU dT 1U 2T 196U 7T 1U 6T 1U 1T 52U 16T 2U 7T",
   "1U 2T 1U 2T 7aU 6T 3U 1T 1U 2T 1U 7T 1U 1T 48U 2T 3U 1T 1U 1T 15bU 2T bU 2T 34U 5T 5U 1T 1U",
   "1T 14edU 11T 6U fT 369aU 5T 3bU 7T 418U 1T 3fU 4T 51U 1T 4cb8U 2T 1U 4T 125cU 2eT 2U 17T 220U",
   "3T 9U 10T 2U 7T 1eU 4T 94U 3T 7bbU 37T 4U 32T 8U 1T eU 1T 16U 5T 1U fT 550U 7T 1U 11T 2U 7T",
   "1U 2T 1U 5T 64U 1T a0U 7T 177U 1T 3dU 4T 1fcU 4T 3e0U 7T 29U 44Y 8T c16b5U 1T 1eU 60T 80U f0T",
   "2fe10U"]

/-- Runs of marks and of other characters take turns; others come first. -/
def marks : List String :=
  ["300 70 113 7 107 2d 1 1 1 2 1 2 1 1 48 b 30 15 10 1 65 7 2 6 2 2 1 4 23 1 1e 1b 5b b 3a 9 9 1",
   "18 4 1 9 1 3 1 5 2b 3 3c 8 2a 18 1 21 36 3 1 12 1 7 a 2 1d 3 38 1 1 7 2 2 2 3 9 1 a 2 1a 1 2",
   "3 38 1 1 5 4 2 2 3 3 1 1e 2 3 1 b 3 38 1 1 8 1 3 1 3 14 2 16 6 1 3 38 1 1 7 2 2 2 3 7 3 a 2",
   "1e 1 3b 5 3 3 1 4 9 1 28 5 37 1 1 7 1 3 1 4 7 2 b 2 1d 3 38 1 1 7 1 3 1 4 7 2 b 2 f 1 c 4 37",
   "2 1 7 1 3 1 4 9 1 a 2 1d 3 46 1 4 6 1 1 1 8 12 2 3d 1 2 7 c 8 62 1 2 9 b 7 49 2 1b 1 1 1 1 1",
   "4 2 31 14 1 2 5 b 1 24 9 1 64 14 17 4 4 3 1 3 2 7 3 4 d c 1 1 a 4 2bf 3 3b2 4 1c 3 1d 2 1e 2",
   "40 20 9 1 2d 3 1 1 75 2 22 1 76 c 4 c db 5 39 a 1 1d 2 1 30 1f 31 5 2f 11 26 9 c 3 1e d 38 e",
   "30 14 98 3 1 15 4 1 6 1 2 3 c6 40 2d0 21 bfe 3 8d 1 60 20 22a 6 69 2 75d4 4 1 a 20 2 50 2 110",
   "1 3 1 4 1 17 5 4 1 53 2 32 12 1a 12 d 1 26 8 19 d 2c 4 2f e 24 1 43 e c 1 8 2 2d 3 32 1 1 3 2",
   "2 5 2 1 1 29 5 5 2 ec 8 1 2 4f30 1 2e1 10 10 10 3cd 1 e2 1 95 5 686 3 1 2 5 4 28 3 4 1 a5 2",
   "23d 4 183 2 50 3 46 b 31 4 7a 3 35 f 29 1 2 2 a 4 2d b 7 1 3d 3 24 e 10 2 2c 1 c 3 30 e 8 4 1",
   "2 5c c 6 1 2 1 9d c 15 4 37 2 1 7 2 2 2 3 9 1 a 2 2 7 3 5 c0 12 17 1 51 14 eb 7 2 9 1b 2 52",
   "11 6a d 65 f 100 f f5 6 1 2 2 4 1 1 1 2 8d 7 2 7 3 1 1c a 28 7 1 4 8 1 9 b 2e 10 195 8 1 8 52",
   "16 1 e 7a 6 3 1 1 2 1 7 1 1 42 5 1 2 1 5 15b 4 9 2 1 1 30 7 3 5 14fd 1 6 f 369a 5 3b 7 418 1",
   "1 37 7 4 51 1 b 2 4cab 2 1261 2e 2 17 21e 5 3 6 8 8 2 7 1e 4 94 3 7bb 37 4 32 8 1 e 1 16 5 1",
   "f 550 7 1 11 2 7 1 2 1 5 64 1 a0 7 177 1 3d 4 1fc 4 3e0 7 6d 7 c17b5 f0 2fe10"]

end Switchyard.Idna.Table
