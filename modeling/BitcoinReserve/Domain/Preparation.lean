import BitcoinReserve.Domain.Composition

/-!
# Prepared labels

A label of a domain name is folded and composed before it is compared. Blanks, controls, private and
unassigned code points and surrogates may not be in it, and letters of both directions may not be
mixed.
-/
namespace BitcoinReserve.Domain

/-- Code points that no label may have. -/
def prohibited : List (List Nat) := Text.rows
  "80,21 340,2 6dd,1 70f,1 1680,1 180e,1 2000,10 2028,8 205f,5 206a,6 2ff0,c 3000,1 d800,2100
  fdd0,20 feff,1 fff9,7 1d173,8 1fffe,2 2fffe,2 3fffe,2 4fffe,2 5fffe,2 6fffe,2 7fffe,2 8fffe,2
  9fffe,2 afffe,2 bfffe,2 cfffe,2 dfffe,2 e0001,1 e0020,60 efffe,20002"

/-- Letters that are written from right to left. -/
def rightToLeft : List (List Nat) := Text.rows
  "5be,1 5c0,1 5c3,1 5d0,1b 5f0,5 61b,1 61f,1 621,1a 640,b 66d,3 671,65 6dd,1 6e5,2 6fa,5 700,e
  710,1 712,1b 780,26 7b1,1 200f,1 fb1d,1 fb1f,a fb2a,d fb38,5 fb3e,1 fb40,2 fb43,2 fb46,6c
  fbd3,16b fd50,40 fd92,36 fdf0,d fe70,5 fe76,87"

/-- Letters that are written from left to right. -/
def leftToRight : List (List Nat) := Text.rows
  "41,1a 61,1a aa,1 b5,1 ba,1 c0,17 d8,1f f8,129 222,12 250,5e 2b0,9 2bb,7 2d0,2 2e0,5 2ee,1 37a,1
  386,1 388,3 38c,1 38e,14 3a3,2c 3d0,26 400,83 48a,45 4d0,26 4f8,2 500,10 531,26 559,7 561,27
  589,1 903,1 905,35 93d,4 949,4 950,1 958,a 964,d 982,2 985,8 98f,2 993,16 9aa,7 9b2,1 9b6,4
  9be,3 9c7,2 9cb,2 9d7,1 9dc,2 9df,3 9e6,c 9f4,7 a05,6 a0f,2 a13,16 a2a,7 a32,2 a35,2 a38,2 a3e,3
  a59,4 a5e,1 a66,a a72,3 a83,1 a85,7 a8d,1 a8f,3 a93,16 aaa,7 ab2,2 ab5,5 abd,4 ac9,1 acb,2 ad0,1
  ae0,1 ae6,a b02,2 b05,8 b0f,2 b13,16 b2a,7 b32,2 b36,4 b3d,2 b40,1 b47,2 b4b,2 b57,1 b5c,2 b5f,3
  b66,b b83,1 b85,6 b8e,3 b92,4 b99,2 b9c,1 b9e,2 ba3,2 ba8,3 bae,8 bb7,3 bbe,2 bc1,2 bc6,3 bca,3
  bd7,1 be7,c c01,3 c05,8 c0e,3 c12,17 c2a,a c35,5 c41,4 c60,2 c66,a c82,2 c85,8 c8e,3 c92,17
  caa,a cb5,5 cbe,1 cc0,5 cc7,2 cca,2 cd5,2 cde,1 ce0,2 ce6,a d02,2 d05,8 d0e,3 d12,17 d2a,10
  d3e,3 d46,3 d4a,3 d57,1 d60,2 d66,a d82,2 d85,12 d9a,18 db3,9 dbd,1 dc0,7 dcf,3 dd8,8 df2,3
  e01,30 e32,2 e40,7 e4f,d e81,2 e84,1 e87,2 e8a,1 e8d,1 e94,4 e99,7 ea1,3 ea5,1 ea7,1 eaa,2 ead,4
  eb2,2 ebd,1 ec0,5 ec6,1 ed0,a edc,2 f00,18 f1a,1b f36,1 f38,1 f3e,a f49,22 f7f,1 f85,1 f88,4
  fbe,8 fc7,6 fcf,1 1000,22 1023,5 1029,2 102c,1 1031,1 1038,1 1040,18 10a0,26 10d0,29 10fb,1
  1100,5a 115f,44 11a8,52 1200,7 1208,3f 1248,1 124a,4 1250,7 1258,1 125a,4 1260,27 1288,1 128a,4
  1290,1f 12b0,1 12b2,4 12b8,7 12c0,1 12c2,4 12c8,7 12d0,7 12d8,17 12f0,1f 1310,1 1312,4 1318,7
  1320,27 1348,13 1361,1c 13a0,55 1401,276 1681,1a 16a0,51 1700,d 170e,4 1720,12 1735,2 1740,12
  1760,d 176e,3 1780,37 17be,8 17c7,2 17d4,7 17dc,1 17e0,a 1810,a 1820,58 1880,29 1e00,9c 1ea0,5a
  1f00,16 1f18,6 1f20,26 1f48,6 1f50,8 1f59,1 1f5b,1 1f5d,1 1f5f,1f 1f80,35 1fb6,7 1fbe,1 1fc2,3
  1fc6,7 1fd0,4 1fd6,6 1fe0,d 1ff2,3 1ff6,7 200e,1 2071,1 207f,1 2102,1 2107,1 210a,a 2115,1
  2119,5 2124,1 2126,1 2128,1 212a,4 212f,3 2133,7 213d,3 2145,5 2160,24 2336,45 2395,1 249c,4e
  3005,3 3021,9 3031,5 3038,5 3041,56 309d,3 30a1,5a 30fc,4 3105,28 3131,5e 3190,28 31f0,2d
  3220,24 3260,1c 327f,32 32c0,c 32d0,2f 3300,77 337b,63 33e0,1f 3400,19b6 4e00,51a6 a000,48d
  ac00,2ba4 d800,222e fa30,3b fb00,7 fb13,5 ff21,1a ff41,1a ff66,59 ffc2,6 ffca,6 ffd2,6 ffda,3
  10300,1f 10320,4 10330,1b 10400,26 10428,26 1d000,f6 1d100,27 1d12a,3d 1d16a,9 1d183,2 1d18c,1e
  1d1ae,30 1d400,55 1d456,47 1d49e,2 1d4a2,1 1d4a5,2 1d4a9,4 1d4ae,c 1d4bb,1 1d4bd,4 1d4c2,2
  1d4c5,41 1d507,4 1d50d,8 1d516,7 1d51e,1c 1d53b,4 1d540,5 1d546,1 1d54a,7 1d552,152 1d6a8,122
  20000,a6d7 2f800,21e f0000,fffe 100000,fffe"

def isRightToLeft (n : Nat) : Bool := Text.inRanges rightToLeft n

/-- A label with letters from right to left begins and ends with one and has none from left to
right. -/
def hasOneDirection (ns : List Nat) : Bool :=
  ns.all (!isRightToLeft ·) ||
    (ns.all (!Text.inRanges leftToRight ·) && ns.head?.any isRightToLeft &&
      ns.getLast?.any isRightToLeft)

def prepare? (ns : List Nat) : Option (List Nat) :=
  let prepared := normalize ns
  if prepared.all (!Text.inRanges prohibited ·) && hasOneDirection prepared then some prepared
  else none

end BitcoinReserve.Domain
