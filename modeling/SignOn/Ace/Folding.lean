import SignOn.Text.PointTable

/-!
# Preparation tables

What a host label's characters are mapped to before normalization, which characters vanish, which
ones may not remain, and which ones are written from right to left or from left to right.
-/

set_option autoImplicit false

namespace SignOn.Ace

open Text

/-- The case folding of characters, chosen so that it is stable under normalization. -/
def foldingTable : PointTable := PointTable.ofText
  "41 5a 1 61 b5 b5 1 3bc c0 d6 1 e0 d8 de 1 f8 100 12e 2 101 132 136 2 133 139 147 2 13a 14a
  176 2 14b 178 178 1 ff 179 17d 2 17a 17f 17f 1 73 181 181 1 253 182 184 2 183 186 186 1 254
  187 187 1 188 189 18a 1 256 18b 18b 1 18c 18e 18e 1 1dd 18f 18f 1 259 190 190 1 25b 191 191
  1 192 193 193 1 260 194 194 1 263 196 196 1 269 197 197 1 268 198 198 1 199 19c 19c 1 26f
  19d 19d 1 272 19f 19f 1 275 1a0 1a4 2 1a1 1a6 1a6 1 280 1a7 1a7 1 1a8 1a9 1a9 1 283 1ac 1ac
  1 1ad 1ae 1ae 1 288 1af 1af 1 1b0 1b1 1b2 1 28a 1b3 1b5 2 1b4 1b7 1b7 1 292 1b8 1b8 1 1b9
  1bc 1bc 1 1bd 1c4 1c4 1 1c6 1c5 1c5 1 1c6 1c7 1c7 1 1c9 1c8 1c8 1 1c9 1ca 1ca 1 1cc 1cb 1db
  2 1cc 1de 1ee 2 1df 1f1 1f1 1 1f3 1f2 1f4 2 1f3 1f6 1f6 1 195 1f7 1f7 1 1bf 1f8 21e 2 1f9
  220 220 1 19e 222 232 2 223 23a 23a 1 2c65 23b 23b 1 23c 23d 23d 1 19a 23e 23e 1 2c66 241
  241 1 242 243 243 1 180 244 244 1 289 245 245 1 28c 246 24e 2 247 345 345 1 3b9 370 372 2
  371 376 376 1 377 37f 37f 1 3f3 386 386 1 3ac 388 38a 1 3ad 38c 38c 1 3cc 38e 38f 1 3cd 391
  3a1 1 3b1 3a3 3ab 1 3c3 3c2 3c2 1 3c3 3cf 3cf 1 3d7 3d0 3d0 1 3b2 3d1 3d1 1 3b8 3d2 3d2 1
  3c5 3d3 3d3 1 3cd 3d4 3d4 1 3cb 3d5 3d5 1 3c6 3d6 3d6 1 3c0 3d8 3ee 2 3d9 3f0 3f0 1 3ba 3f1
  3f1 1 3c1 3f2 3f2 1 3c3 3f4 3f4 1 3b8 3f5 3f5 1 3b5 3f7 3f7 1 3f8 3f9 3f9 1 3c3 3fa 3fa 1
  3fb 3fd 3ff 1 37b 400 40f 1 450 410 42f 1 430 460 480 2 461 48a 4be 2 48b 4c0 4c0 1 4cf 4c1
  4cd 2 4c2 4d0 52e 2 4d1 531 556 1 561 10a0 10c5 1 2d00 10c7 10c7 1 2d27 10cd 10cd 1 2d2d
  13a0 13ef 1 ab70 13f0 13f5 1 13f8 1c90 1cba 1 10d0 1cbd 1cbf 1 10fd 1e00 1e94 2 1e01 1e9b
  1e9b 1 1e61 1ea0 1efe 2 1ea1 1f08 1f0f 1 1f00 1f18 1f1d 1 1f10 1f28 1f2f 1 1f20 1f38 1f3f 1
  1f30 1f48 1f4d 1 1f40 1f59 1f5f 2 1f51 1f68 1f6f 1 1f60 1fb8 1fb9 1 1fb0 1fba 1fbb 1 1f70
  1fbe 1fbe 1 3b9 1fc8 1fcb 1 1f72 1fd8 1fd9 1 1fd0 1fda 1fdb 1 1f76 1fe8 1fe9 1 1fe0 1fea
  1feb 1 1f7a 1fec 1fec 1 1fe5 1ff8 1ff9 1 1f78 1ffa 1ffb 1 1f7c 2102 2102 1 63 2107 2107 1
  25b 210b 210b 1 68 210c 210c 1 68 210d 210d 1 68 2110 2110 1 69 2111 2111 1 69 2112 2112 1
  6c 2115 2115 1 6e 2119 211b 1 70 211c 211c 1 72 211d 211d 1 72 2124 2124 1 7a 2126 2126 1
  3c9 2128 2128 1 7a 212a 212a 1 6b 212b 212b 1 e5 212c 212d 1 62 2130 2131 1 65 2132 2132 1
  214e 2133 2133 1 6d 213e 213e 1 3b3 213f 213f 1 3c0 2145 2145 1 64 2160 216f 1 2170 2183
  2183 1 2184 24b6 24cf 1 24d0 2c00 2c2f 1 2c30 2c60 2c60 1 2c61 2c62 2c62 1 26b 2c63 2c63 1
  1d7d 2c64 2c64 1 27d 2c67 2c6b 2 2c68 2c6d 2c6d 1 251 2c6e 2c6e 1 271 2c6f 2c6f 1 250 2c70
  2c70 1 252 2c72 2c72 1 2c73 2c75 2c75 1 2c76 2c7e 2c7f 1 23f 2c80 2ce2 2 2c81 2ceb 2ced 2
  2cec 2cf2 2cf2 1 2cf3 a640 a66c 2 a641 a680 a69a 2 a681 a722 a72e 2 a723 a732 a76e 2 a733
  a779 a77b 2 a77a a77d a77d 1 1d79 a77e a786 2 a77f a78b a78b 1 a78c a78d a78d 1 265 a790
  a792 2 a791 a796 a7a8 2 a797 a7aa a7aa 1 266 a7ab a7ab 1 25c a7ac a7ac 1 261 a7ad a7ad 1
  26c a7ae a7ae 1 26a a7b0 a7b0 1 29e a7b1 a7b1 1 287 a7b2 a7b2 1 29d a7b3 a7b3 1 ab53 a7b4
  a7c2 2 a7b5 a7c4 a7c4 1 a794 a7c5 a7c5 1 282 a7c6 a7c6 1 1d8e a7c7 a7c9 2 a7c8 a7d0 a7d0 1
  a7d1 a7d6 a7d8 2 a7d7 a7f5 a7f5 1 a7f6 ff21 ff3a 1 ff41 10400 10427 1 10428 104b0 104d3 1
  104d8 10570 1057a 1 10597 1057c 1058a 1 105a3 1058c 10592 1 105b3 10594 10595 1 105bb 10c80
  10cb2 1 10cc0 118a0 118bf 1 118c0 16e40 16e5f 1 16e60 1d400 1d419 1 61 1d434 1d44d 1 61
  1d468 1d481 1 61 1d49c 1d49e 2 61 1d49f 1d49f 1 64 1d4a2 1d4a2 1 67 1d4a5 1d4a6 1 6a 1d4a9
  1d4ac 1 6e 1d4ae 1d4b5 1 73 1d4d0 1d4e9 1 61 1d504 1d505 1 61 1d507 1d50a 1 64 1d50d 1d514
  1 6a 1d516 1d51c 1 73 1d538 1d539 1 61 1d53b 1d53e 1 64 1d540 1d544 1 69 1d546 1d546 1 6f
  1d54a 1d550 1 73 1d56c 1d585 1 61 1d5a0 1d5b9 1 61 1d5d4 1d5ed 1 61 1d608 1d621 1 61 1d63c
  1d655 1 61 1d670 1d689 1 61 1d6a8 1d6b8 1 3b1 1d6b9 1d6b9 1 3b8 1d6ba 1d6c0 1 3c3 1d6d3
  1d6d3 1 3c3 1d6e2 1d6f2 1 3b1 1d6f3 1d6f3 1 3b8 1d6f4 1d6fa 1 3c3 1d70d 1d70d 1 3c3 1d71c
  1d72c 1 3b1 1d72d 1d72d 1 3b8 1d72e 1d734 1 3c3 1d747 1d747 1 3c3 1d756 1d766 1 3b1 1d767
  1d767 1 3b8 1d768 1d76e 1 3c3 1d781 1d781 1 3c3 1d790 1d7a0 1 3b1 1d7a1 1d7a1 1 3b8 1d7a2
  1d7a8 1 3c3 1d7bb 1d7bb 1 3c3 1e900 1e921 1 1e922"
  "df 73 73; 130 69 307; 149 2bc 6e; 1f0 6a 30c; 37a 20 3b9; 390 3b9 308 301; 3b0 3c5 308 301;
  587 565 582; 1e96 68 331; 1e97 74 308; 1e98 77 30a; 1e99 79 30a; 1e9a 61 2be; 1e9e 73 73;
  1f50 3c5 313; 1f52 3c5 313 300; 1f54 3c5 313 301; 1f56 3c5 313 342; 1f80 1f00 3b9;
  1f81 1f01 3b9; 1f82 1f02 3b9; 1f83 1f03 3b9; 1f84 1f04 3b9; 1f85 1f05 3b9; 1f86 1f06 3b9;
  1f87 1f07 3b9; 1f88 1f00 3b9; 1f89 1f01 3b9; 1f8a 1f02 3b9; 1f8b 1f03 3b9; 1f8c 1f04 3b9;
  1f8d 1f05 3b9; 1f8e 1f06 3b9; 1f8f 1f07 3b9; 1f90 1f20 3b9; 1f91 1f21 3b9; 1f92 1f22 3b9;
  1f93 1f23 3b9; 1f94 1f24 3b9; 1f95 1f25 3b9; 1f96 1f26 3b9; 1f97 1f27 3b9; 1f98 1f20 3b9;
  1f99 1f21 3b9; 1f9a 1f22 3b9; 1f9b 1f23 3b9; 1f9c 1f24 3b9; 1f9d 1f25 3b9; 1f9e 1f26 3b9;
  1f9f 1f27 3b9; 1fa0 1f60 3b9; 1fa1 1f61 3b9; 1fa2 1f62 3b9; 1fa3 1f63 3b9; 1fa4 1f64 3b9;
  1fa5 1f65 3b9; 1fa6 1f66 3b9; 1fa7 1f67 3b9; 1fa8 1f60 3b9; 1fa9 1f61 3b9; 1faa 1f62 3b9;
  1fab 1f63 3b9; 1fac 1f64 3b9; 1fad 1f65 3b9; 1fae 1f66 3b9; 1faf 1f67 3b9; 1fb2 1f70 3b9;
  1fb3 3b1 3b9; 1fb4 3ac 3b9; 1fb6 3b1 342; 1fb7 3b1 342 3b9; 1fbc 3b1 3b9; 1fc2 1f74 3b9;
  1fc3 3b7 3b9; 1fc4 3ae 3b9; 1fc6 3b7 342; 1fc7 3b7 342 3b9; 1fcc 3b7 3b9; 1fd2 3b9 308 300;
  1fd3 3b9 308 301; 1fd6 3b9 342; 1fd7 3b9 308 342; 1fe2 3c5 308 300; 1fe3 3c5 308 301;
  1fe4 3c1 313; 1fe6 3c5 342; 1fe7 3c5 308 342; 1ff2 1f7c 3b9; 1ff3 3c9 3b9; 1ff4 3ce 3b9;
  1ff6 3c9 342; 1ff7 3c9 342 3b9; 1ffc 3c9 3b9; 20a8 72 73; 2103 b0 63; 2109 b0 66;
  2116 6e 6f; 2120 73 6d; 2121 74 65 6c; 2122 74 6d; 3371 68 70 61; 3373 61 75; 3375 6f 76;
  3380 70 61; 3381 6e 61; 3382 3bc 61; 3383 6d 61; 3384 6b 61; 3385 6b 62; 3386 6d 62;
  3387 67 62; 338a 70 66; 338b 6e 66; 338c 3bc 66; 3390 68 7a; 3391 6b 68 7a; 3392 6d 68 7a;
  3393 67 68 7a; 3394 74 68 7a; 33a9 70 61; 33aa 6b 70 61; 33ab 6d 70 61; 33ac 67 70 61;
  33b4 70 76; 33b5 6e 76; 33b6 3bc 76; 33b7 6d 76; 33b8 6b 76; 33b9 6d 76; 33ba 70 77;
  33bb 6e 77; 33bc 3bc 77; 33bd 6d 77; 33be 6b 77; 33bf 6d 77; 33c0 6b 3c9; 33c1 6d 3c9;
  33c3 62 71; 33c6 63 2215 6b 67; 33c7 63 6f 2e; 33c8 64 62; 33c9 67 79; 33cb 68 70;
  33cd 6b 6b; 33ce 6b 6d; 33d7 70 68; 33d9 70 70 6d; 33da 70 72; 33dc 73 76; 33dd 77 62;
  fb00 66 66; fb01 66 69; fb02 66 6c; fb03 66 66 69; fb04 66 66 6c; fb05 73 74; fb06 73 74;
  fb13 574 576; fb14 574 565; fb15 574 56b; fb16 57e 576; fb17 574 56d;"

/-- The characters that are mapped to nothing. -/
def vanishingTable : RangeTable := RangeTable.ofText
  "ad ad 34f 34f 1806 1806 180b 180d 200b 200d 2060 2060 fe00 fe0f feff feff"

/-- The characters that no prepared label may hold. -/
def prohibitedTable : RangeTable := RangeTable.ofText
  "80 a0 340 341 6dd 6dd 70f 70f 1680 1680 180e 180e 2000 200f 2028 202f 205f 2063 206a 206f
  2ff0 2ffb 3000 3000 e000 f8ff fdd0 fdef feff feff fff9 ffff 1d173 1d17a 1fffe 1ffff 2fffe
  2ffff 3fffe 3ffff 4fffe 4ffff 5fffe 5ffff 6fffe 6ffff 7fffe 7ffff 8fffe 8ffff 9fffe 9ffff
  afffe affff bfffe bffff cfffe cffff dfffe dffff e0001 e0001 e0020 e007f efffe 10ffff"

/-- The characters written from right to left. -/
def rightToLeftTable : RangeTable := RangeTable.ofText
  "5be 5be 5c0 5c0 5c3 5c3 5d0 5ea 5f0 5f4 61b 61b 61f 61f 621 63a 640 64a 66d 66f 671 6d5 6dd
  6dd 6e5 6e6 6fa 6fe 700 70d 710 710 712 72c 780 7a5 7b1 7b1 200f 200f fb1d fb1d fb1f fb28
  fb2a fb36 fb38 fb3c fb3e fb3e fb40 fb41 fb43 fb44 fb46 fbb1 fbd3 fd3d fd50 fd8f fd92 fdc7
  fdf0 fdfc fe70 fe74 fe76 fefc"

/-- The characters written from left to right. -/
def leftToRightTable : RangeTable := RangeTable.ofText
  "41 5a 61 7a aa aa b5 b5 ba ba c0 d6 d8 f6 f8 220 222 233 250 2ad 2b0 2b8 2bb 2c1 2d0 2d1
  2e0 2e4 2ee 2ee 37a 37a 386 386 388 38a 38c 38c 38e 3a1 3a3 3ce 3d0 3f5 400 482 48a 4ce 4d0
  4f5 4f8 4f9 500 50f 531 556 559 55f 561 587 589 589 903 903 905 939 93d 940 949 94c 950 950
  958 961 964 970 982 983 985 98c 98f 990 993 9a8 9aa 9b0 9b2 9b2 9b6 9b9 9be 9c0 9c7 9c8 9cb
  9cc 9d7 9d7 9dc 9dd 9df 9e1 9e6 9f1 9f4 9fa a05 a0a a0f a10 a13 a28 a2a a30 a32 a33 a35 a36
  a38 a39 a3e a40 a59 a5c a5e a5e a66 a6f a72 a74 a83 a83 a85 a8b a8d a8d a8f a91 a93 aa8 aaa
  ab0 ab2 ab3 ab5 ab9 abd ac0 ac9 ac9 acb acc ad0 ad0 ae0 ae0 ae6 aef b02 b03 b05 b0c b0f b10
  b13 b28 b2a b30 b32 b33 b36 b39 b3d b3e b40 b40 b47 b48 b4b b4c b57 b57 b5c b5d b5f b61 b66
  b70 b83 b83 b85 b8a b8e b90 b92 b95 b99 b9a b9c b9c b9e b9f ba3 ba4 ba8 baa bae bb5 bb7 bb9
  bbe bbf bc1 bc2 bc6 bc8 bca bcc bd7 bd7 be7 bf2 c01 c03 c05 c0c c0e c10 c12 c28 c2a c33 c35
  c39 c41 c44 c60 c61 c66 c6f c82 c83 c85 c8c c8e c90 c92 ca8 caa cb3 cb5 cb9 cbe cbe cc0 cc4
  cc7 cc8 cca ccb cd5 cd6 cde cde ce0 ce1 ce6 cef d02 d03 d05 d0c d0e d10 d12 d28 d2a d39 d3e
  d40 d46 d48 d4a d4c d57 d57 d60 d61 d66 d6f d82 d83 d85 d96 d9a db1 db3 dbb dbd dbd dc0 dc6
  dcf dd1 dd8 ddf df2 df4 e01 e30 e32 e33 e40 e46 e4f e5b e81 e82 e84 e84 e87 e88 e8a e8a e8d
  e8d e94 e97 e99 e9f ea1 ea3 ea5 ea5 ea7 ea7 eaa eab ead eb0 eb2 eb3 ebd ebd ec0 ec4 ec6 ec6
  ed0 ed9 edc edd f00 f17 f1a f34 f36 f36 f38 f38 f3e f47 f49 f6a f7f f7f f85 f85 f88 f8b fbe
  fc5 fc7 fcc fcf fcf 1000 1021 1023 1027 1029 102a 102c 102c 1031 1031 1038 1038 1040 1057
  10a0 10c5 10d0 10f8 10fb 10fb 1100 1159 115f 11a2 11a8 11f9 1200 1206 1208 1246 1248 1248
  124a 124d 1250 1256 1258 1258 125a 125d 1260 1286 1288 1288 128a 128d 1290 12ae 12b0 12b0
  12b2 12b5 12b8 12be 12c0 12c0 12c2 12c5 12c8 12ce 12d0 12d6 12d8 12ee 12f0 130e 1310 1310
  1312 1315 1318 131e 1320 1346 1348 135a 1361 137c 13a0 13f4 1401 1676 1681 169a 16a0 16f0
  1700 170c 170e 1711 1720 1731 1735 1736 1740 1751 1760 176c 176e 1770 1780 17b6 17be 17c5
  17c7 17c8 17d4 17da 17dc 17dc 17e0 17e9 1810 1819 1820 1877 1880 18a8 1e00 1e9b 1ea0 1ef9
  1f00 1f15 1f18 1f1d 1f20 1f45 1f48 1f4d 1f50 1f57 1f59 1f59 1f5b 1f5b 1f5d 1f5d 1f5f 1f7d
  1f80 1fb4 1fb6 1fbc 1fbe 1fbe 1fc2 1fc4 1fc6 1fcc 1fd0 1fd3 1fd6 1fdb 1fe0 1fec 1ff2 1ff4
  1ff6 1ffc 200e 200e 2071 2071 207f 207f 2102 2102 2107 2107 210a 2113 2115 2115 2119 211d
  2124 2124 2126 2126 2128 2128 212a 212d 212f 2131 2133 2139 213d 213f 2145 2149 2160 2183
  2336 237a 2395 2395 249c 24e9 3005 3007 3021 3029 3031 3035 3038 303c 3041 3096 309d 309f
  30a1 30fa 30fc 30ff 3105 312c 3131 318e 3190 31b7 31f0 321c 3220 3243 3260 327b 327f 32b0
  32c0 32cb 32d0 32fe 3300 3376 337b 33dd 33e0 33fe 3400 4db5 4e00 9fa5 a000 a48c ac00 d7a3
  e000 fa2d fa30 fa6a fb00 fb06 fb13 fb17 ff21 ff3a ff41 ff5a ff66 ffbe ffc2 ffc7 ffca ffcf
  ffd2 ffd7 ffda ffdc 10300 1031e 10320 10323 10330 1034a 10400 10425 10428 1044d 1d000 1d0f5
  1d100 1d126 1d12a 1d166 1d16a 1d172 1d183 1d184 1d18c 1d1a9 1d1ae 1d1dd 1d400 1d454 1d456
  1d49c 1d49e 1d49f 1d4a2 1d4a2 1d4a5 1d4a6 1d4a9 1d4ac 1d4ae 1d4b9 1d4bb 1d4bb 1d4bd 1d4c0
  1d4c2 1d4c3 1d4c5 1d505 1d507 1d50a 1d50d 1d514 1d516 1d51c 1d51e 1d539 1d53b 1d53e 1d540
  1d544 1d546 1d546 1d54a 1d550 1d552 1d6a3 1d6a8 1d7c9 20000 2a6d6 2f800 2fa1d f0000 ffffd
  100000 10fffd"

end SignOn.Ace
