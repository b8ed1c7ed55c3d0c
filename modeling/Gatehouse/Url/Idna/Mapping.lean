/-!
# How characters of a host name are mapped

Each row begins at a code point and holds up to the next row: `V` for
characters that stay, `M` for those replaced by the code points that follow
the letter, `I` for those left out, and `X` for those that no host name may
contain. Deviation characters stay.
-/

namespace Gatehouse.Url.Idna

/-- The mapping of every character. -/
def mappingRows : String := "
0V 41M61 M62 M63 M64 M65 M66 M67 M68 M69 M6a M6b M6c M6d M6e M6f M70 M71 M72
M73 M74 M75 M76 M77 M78 M79 M7a V 25X 20M20 V 7M20.308 V M61 V 2I V M20.304
V 2M32 M33 M20.301 M3bc V 2M20.327 M31 M6f V M31.2044.34 M31.2044.32
M33.2044.34 V Me0 Me1 Me2 Me3 Me4 Me5 Me6 Me7 Me8 Me9 Mea Meb Mec Med Mee
Mef Mf0 Mf1 Mf2 Mf3 Mf4 Mf5 Mf6 V Mf8 Mf9 Mfa Mfb Mfc Mfd Mfe V 21M101 V
M103 V M105 V M107 V M109 V M10b V M10d V M10f V M111 V M113 V M115 V M117 V
M119 V M11b V M11d V M11f V M121 V M123 V M125 V M127 V M129 V M12b V M12d V
M12f V M69.307 V M69.6a 2M135 V M137 V 2M13a V M13c V M13e V M6c.b7 2M142 V
M144 V M146 V M148 V M2bc.6e M14b V M14d V M14f V M151 V M153 V M155 V M157
V M159 V M15b V M15d V M15f V M161 V M163 V M165 V M167 V M169 V M16b V M16d
V M16f V M171 V M173 V M175 V M177 V Mff M17a V M17c V M17e V M73 V M253
M183 V M185 V M254 M188 V M256 M257 M18c V 2M1dd M259 M25b M192 V M260 M263
V M269 M268 M199 V 3M26f M272 V M275 M1a1 V M1a3 V M1a5 V M280 M1a8 V M283 V
2M1ad V M288 M1b0 V M28a M28b M1b4 V M1b6 V M292 M1b9 V 3M1bd V 7M64.17e
3M6c.6a 3M6e.6a 3M1ce V M1d0 V M1d2 V M1d4 V M1d6 V M1d8 V M1da V M1dc V
2M1df V M1e1 V M1e3 V M1e5 V M1e7 V M1e9 V M1eb V M1ed V M1ef V 2M64.7a
3M1f5 V M195 M1bf M1f9 V M1fb V M1fd V M1ff V M201 V M203 V M205 V M207 V
M209 V M20b V M20d V M20f V M211 V M213 V M215 V M217 V M219 V M21b V M21d V
M21f V M19e V M223 V M225 V M227 V M229 V M22b V M22d V M22f V M231 V M233 V
7M2c65 M23c V M19a M2c66 V 2M242 V M180 M289 M28c M247 V M249 V M24b V M24d
V M24f V 61M68 M266 M6a M72 M279 M27b M281 M77 M79 V 1fM20.306 M20.307
M20.30a M20.328 M20.303 M20.30b V 2M263 M6c M73 M78 M295 V 5bM300 M301 V
M313 M308.301 M3b9 V 9I V 20M371 V M373 V M2b9 V M377 V X 2M20.3b9 V 3M3b
M3f3 X 4M20.301 M20.308.301 M3ac Mb7 M3ad M3ae M3af X M3cc X M3cd M3ce V
M3b1 M3b2 M3b3 M3b4 M3b5 M3b6 M3b7 M3b8 M3b9 M3ba M3bb M3bc M3bd M3be M3bf
M3c0 M3c1 X M3c3 M3c4 M3c5 M3c6 M3c7 M3c8 M3c9 M3ca M3cb V 23M3d7 M3b2 M3b8
M3c5 M3cd M3cb M3c6 M3c0 V M3d9 V M3db V M3dd V M3df V M3e1 V M3e3 V M3e5 V
M3e7 V M3e9 V M3eb V M3ed V M3ef V M3ba M3c1 M3c3 V M3b8 M3b5 V M3f8 V M3c3
M3fb V 2M37b M37c M37d M450 M451 M452 M453 M454 M455 M456 M457 M458 M459
M45a M45b M45c M45d M45e M45f M430 M431 M432 M433 M434 M435 M436 M437 M438
M439 M43a M43b M43c M43d M43e M43f M440 M441 M442 M443 M444 M445 M446 M447
M448 M449 M44a M44b M44c M44d M44e M44f V 30M461 V M463 V M465 V M467 V M469
V M46b V M46d V M46f V M471 V M473 V M475 V M477 V M479 V M47b V M47d V M47f
V M481 V 9M48b V M48d V M48f V M491 V M493 V M495 V M497 V M499 V M49b V
M49d V M49f V M4a1 V M4a3 V M4a5 V M4a7 V M4a9 V M4ab V M4ad V M4af V M4b1 V
M4b3 V M4b5 V M4b7 V M4b9 V M4bb V M4bd V M4bf V M4cf M4c2 V M4c4 V M4c6 V
M4c8 V M4ca V M4cc V M4ce V 2M4d1 V M4d3 V M4d5 V M4d7 V M4d9 V M4db V M4dd
V M4df V M4e1 V M4e3 V M4e5 V M4e7 V M4e9 V M4eb V M4ed V M4ef V M4f1 V M4f3
V M4f5 V M4f7 V M4f9 V M4fb V M4fd V M4ff V M501 V M503 V M505 V M507 V M509
V M50b V M50d V M50f V M511 V M513 V M515 V M517 V M519 V M51b V M51d V M51f
V M521 V M523 V M525 V M527 V M529 V M52b V M52d V M52f V X M561 M562 M563
M564 M565 M566 M567 M568 M569 M56a M56b M56c M56d M56e M56f M570 M571 M572
M573 M574 M575 M576 M577 M578 M579 M57a M57b M57c M57d M57e M57f M580 M581
M582 M583 M584 M585 M586 X 2V 2eM565.582 V 3X 2V 3X V 37X 8V 1bX 4V 6X 11V
16X V 58M627.674 M648.674 M6c7.674 M64a.674 V 64X V 30X 2V 3bX 2V 65X eV 3bX
2V 31X 2V fX V 1cX 2V X V bX 5V 20X 7V 4bX V 75M915.93c M916.93c M917.93c
M91c.93c M921.93c M922.93c M92b.93c M92f.93c V 24X V 8X 2V 2X 2V 16X V 7X V
X 3V 4X 2V 9X 2V 2X 2V 4X 8V X 4M9a1.9bc M9a2.9bc X M9af.9bc V 4X 2V 19X 2V
3X V 6X 4V 2X 2V 16X V 7X V Ma32.a3c X V Ma38.a3c X V 2X 2V X V 5X 4V 2X 2V
3X 3V X 7Ma16.a3c Ma17.a3c Ma1c.a3c V X Ma2b.a3c X 7V 11X aV 3X V 9X V 3X V
16X V 7X V 2X V 5X 2V aX V 3X V 3X 2V X fV 4X 2V cX 7V 7X V 3X V 8X 2V 2X 2V
16X V 7X V 2X V 5X 2V 9X 2V 2X 2V 3X 7V 3X 4Mb21.b3c Mb22.b3c X V 5X 2V 12X
aV 2X V 6X 3V 3X V 4X 3V 2X V X V 2X 3V 2X 3V 3X 3V cX 4V 5X 3V 3X V 4X 2V X
6V X eV 15X 5V dX V 3X V 17X V 10X 2V 9X V 3X V 4X 7V 2X V 3X V 2X 2V 4X 2V
aX 7V 16X V 3X V 17X V aX V 5X 2V 9X V 3X V 4X 7V 2X 5V 3X V 4X 2V aX V 3X
cV dX V 3X V 33X V 3X V 6X 4V 10X 2V 1aX V 3X V 12X 3V 18X V 9X V X 2V 7X 3V
X 4V 6X V X V 8X 6V aX 2V 3X cV 32Me4d.e32 V 7X 4V 1dX 25V 2X V X V 5X V 18X
V X V cMecd.eb2 V aX 2V 5X V X V 7X V aX 2Meab.e99 Meab.ea1 V 2X 20V cMf0b V
36Mf42.fb7 V 4X V 4Mf4c.fb7 V 4Mf51.fb7 V 4Mf56.fb7 V 4Mf5b.fb7 V cMf40.fb5
V 3X 4V 2Mf71.f72 V Mf71.f74 Mfb2.f80 Mfb2.f71.f80 Mfb3.f80 Mfb3.f71.f80 V
7Mf71.f80 V 11Mf92.fb7 V 4X V 4Mf9c.fb7 V 4Mfa1.fb7 V 4Mfa6.fb7 V 4Mfab.fb7
V cMf90.fb5 V 3X V fX V dX 25V a0M2d00 M2d01 M2d02 M2d03 M2d04 M2d05 M2d06
M2d07 M2d08 M2d09 M2d0a M2d0b M2d0c M2d0d M2d0e M2d0f M2d10 M2d11 M2d12
M2d13 M2d14 M2d15 M2d16 M2d17 M2d18 M2d19 M2d1a M2d1b M2d1c M2d1d M2d1e
M2d1f M2d20 M2d21 M2d22 M2d23 M2d24 M2d25 X M2d27 X 5M2d2d X 2V 2cM10dc V
62I 2V e8X V 4X 2V 7X V X V 4X 2V 29X V 4X 2V 21X V 4X 2V 7X V X V 4X 2V fX
V 39X V 4X 2V 43X 2V 20X 3V 1aX 6V 56X 2M13f0 M13f1 M13f2 M13f3 M13f4 M13f5
X 2V 280X V 1cX 3V 59X 7V 16X 9V 18X 9V 14X cV dX V 3X V 2X cV 34I 2V 28X 2V
aX 6V aX 6V bI 5V aX 6V 59X 7V 2bX 5V 46X aV 1fX V cX 4V cX 4V X 3V 2aX 2V
5X bV 2cX 4V 1aX 6V bX 3V 3eX 2V 41X V 1dX 2V bX 6V aX 6V eX 2V 2eX 2V cX
14V 4dX V a6X 8V 3cX 3V fX 3V 33M432 M434 M43e M441 M442 2M44a M463 Ma64b
M1c8a V X 5M10d0 M10d1 M10d2 M10d3 M10d4 M10d5 M10d6 M10d7 M10d8 M10d9 M10da
M10db M10dc M10dd M10de M10df M10e0 M10e1 M10e2 M10e3 M10e4 M10e5 M10e6
M10e7 M10e8 M10e9 M10ea M10eb M10ec M10ed M10ee M10ef M10f0 M10f1 M10f2
M10f3 M10f4 M10f5 M10f6 M10f7 M10f8 M10f9 M10fa X 2M10fd M10fe M10ff V 8X 8V
2bX 5V 2cM61 Me6 M62 V M64 M65 M1dd M67 M68 M69 M6a M6b M6c M6d M6e V M6f
M223 M70 M72 M74 M75 M77 M61 M250 M251 M1d02 M62 M64 M65 M259 M25b M25c M67
V M6b M6d M14b M6f M254 M1d16 M1d17 M70 M74 M75 M1d1d M26f M76 M1d25 M3b2
M3b3 M3b4 M3c6 M3c7 M69 M72 M75 M76 M3b2 M3b3 M3c1 M3c6 M3c7 V dM43d V
22M252 M63 M255 Mf0 M25c M66 M25f M261 M265 M268 M269 M26a M1d7b M29d M26d
M1d85 M29f M271 M270 M272 M273 M274 M275 M278 M282 M283 M1ab M289 M28a M1d1c
M28b M28c M7a M290 M291 M292 M3b8 V 40M1e01 V M1e03 V M1e05 V M1e07 V M1e09
V M1e0b V M1e0d V M1e0f V M1e11 V M1e13 V M1e15 V M1e17 V M1e19 V M1e1b V
M1e1d V M1e1f V M1e21 V M1e23 V M1e25 V M1e27 V M1e29 V M1e2b V M1e2d V
M1e2f V M1e31 V M1e33 V M1e35 V M1e37 V M1e39 V M1e3b V M1e3d V M1e3f V
M1e41 V M1e43 V M1e45 V M1e47 V M1e49 V M1e4b V M1e4d V M1e4f V M1e51 V
M1e53 V M1e55 V M1e57 V M1e59 V M1e5b V M1e5d V M1e5f V M1e61 V M1e63 V
M1e65 V M1e67 V M1e69 V M1e6b V M1e6d V M1e6f V M1e71 V M1e73 V M1e75 V
M1e77 V M1e79 V M1e7b V M1e7d V M1e7f V M1e81 V M1e83 V M1e85 V M1e87 V
M1e89 V M1e8b V M1e8d V M1e8f V M1e91 V M1e93 V M1e95 V 5M61.2be M1e61 V
2Mdf V M1ea1 V M1ea3 V M1ea5 V M1ea7 V M1ea9 V M1eab V M1ead V M1eaf V M1eb1
V M1eb3 V M1eb5 V M1eb7 V M1eb9 V M1ebb V M1ebd V M1ebf V M1ec1 V M1ec3 V
M1ec5 V M1ec7 V M1ec9 V M1ecb V M1ecd V M1ecf V M1ed1 V M1ed3 V M1ed5 V
M1ed7 V M1ed9 V M1edb V M1edd V M1edf V M1ee1 V M1ee3 V M1ee5 V M1ee7 V
M1ee9 V M1eeb V M1eed V M1eef V M1ef1 V M1ef3 V M1ef5 V M1ef7 V M1ef9 V
M1efb V M1efd V M1eff V 9M1f00 M1f01 M1f02 M1f03 M1f04 M1f05 M1f06 M1f07 V
6X 2M1f10 M1f11 M1f12 M1f13 M1f14 M1f15 X 2V 8M1f20 M1f21 M1f22 M1f23 M1f24
M1f25 M1f26 M1f27 V 8M1f30 M1f31 M1f32 M1f33 M1f34 M1f35 M1f36 M1f37 V 6X
2M1f40 M1f41 M1f42 M1f43 M1f44 M1f45 X 2V 8X M1f51 X M1f53 X M1f55 X M1f57 V
8M1f60 M1f61 M1f62 M1f63 M1f64 M1f65 M1f66 M1f67 V M3ac V M3ad V M3ae V M3af
V M3cc V M3cd V M3ce X 2M1f00.3b9 M1f01.3b9 M1f02.3b9 M1f03.3b9 M1f04.3b9
M1f05.3b9 M1f06.3b9 M1f07.3b9 M1f00.3b9 M1f01.3b9 M1f02.3b9 M1f03.3b9
M1f04.3b9 M1f05.3b9 M1f06.3b9 M1f07.3b9 M1f20.3b9 M1f21.3b9 M1f22.3b9
M1f23.3b9 M1f24.3b9 M1f25.3b9 M1f26.3b9 M1f27.3b9 M1f20.3b9 M1f21.3b9
M1f22.3b9 M1f23.3b9 M1f24.3b9 M1f25.3b9 M1f26.3b9 M1f27.3b9 M1f60.3b9
M1f61.3b9 M1f62.3b9 M1f63.3b9 M1f64.3b9 M1f65.3b9 M1f66.3b9 M1f67.3b9
M1f60.3b9 M1f61.3b9 M1f62.3b9 M1f63.3b9 M1f64.3b9 M1f65.3b9 M1f66.3b9
M1f67.3b9 V 2M1f70.3b9 M3b1.3b9 M3ac.3b9 X V M1fb6.3b9 M1fb0 M1fb1 M1f70
M3ac M3b1.3b9 M20.313 M3b9 M20.313 M20.342 M20.308.342 M1f74.3b9 M3b7.3b9
M3ae.3b9 X V M1fc6.3b9 M1f72 M3ad M1f74 M3ae M3b7.3b9 M20.313.300
M20.313.301 M20.313.342 V 3M390 X 2V 2M1fd0 M1fd1 M1f76 M3af X M20.314.300
M20.314.301 M20.314.342 V 3M3b0 V 4M1fe0 M1fe1 M1f7a M3cd M1fe5 M20.308.300
M20.308.301 M60 X 2M1f7c.3b9 M3c9.3b9 M3ce.3b9 X V M1ff6.3b9 M1f78 M3cc
M1f7c M3ce M3c9.3b9 M20.301 M20.314 X M20 bI V 2X 2V M2010 V 5M20.333 V cX
3V X 7M20 V 3M2032.2032 M2032.2032.2032 V M2035.2035 M2035.2035.2035 V
4M21.21 V M20.305 V 8M3f.3f M3f.21 M21.3f V dM2032.2032.2032.2032 V 7M20 I
5X 5I 6M30 M69 X 2M34 M35 M36 M37 M38 M39 M2b M2212 M3d M28 M29 M6e M30 M31
M32 M33 M34 M35 M36 M37 M38 M39 M2b M2212 M3d M28 M29 X M61 M65 M6f M78 M259
M68 M6b M6c M6d M6e M70 M73 M74 X 3V 8M72.73 V 19X eV 21X fM61.2f.63
M61.2f.73 M63 Mb0.63 V M63.2f.6f M63.2f.75 M25b V Mb0.66 M67 M68 4M127 M69
2M6c 2V M6e M6e.6f V 2M70 M71 M72 3V 2M73.6d M74.65.6c M74.6d V M7a V M3c9 V
M7a V M6b Me5 M62 M63 V M65 2M66 M214e M6d M6f M5d0 M5d1 M5d2 M5d3 M69 V
M66.61.78 M3c0 M3b3 2M3c0 M2211 V 4M64 2M65 M69 M6a V 6M31.2044.37
M31.2044.39 M31.2044.31.30 M31.2044.33 M32.2044.33 M31.2044.35 M32.2044.35
M33.2044.35 M34.2044.35 M31.2044.36 M35.2044.36 M31.2044.38 M33.2044.38
M35.2044.38 M37.2044.38 M31.2044 M69 M69.69 M69.69.69 M69.76 M76 M76.69
M76.69.69 M76.69.69.69 M69.78 M78 M78.69 M78.69.69 M6c M63 M64 M6d M69
M69.69 M69.69.69 M69.76 M76 M76.69 M76.69.69 M76.69.69.69 M69.78 M78 M78.69
M78.69.69 M6c M63 M64 M6d V 3M2184 V 5M30.2044.33 V 2X 4V 9cM222b.222b
M222b.222b.222b V M222e.222e M222e.222e.222e V f8M3008 M3009 V ffX 16V bX
15M31 M32 M33 M34 M35 M36 M37 M38 M39 M31.30 M31.31 M31.32 M31.33 M31.34
M31.35 M31.36 M31.37 M31.38 M31.39 M32.30 M28.31.29 M28.32.29 M28.33.29
M28.34.29 M28.35.29 M28.36.29 M28.37.29 M28.38.29 M28.39.29 M28.31.30.29
M28.31.31.29 M28.31.32.29 M28.31.33.29 M28.31.34.29 M28.31.35.29
M28.31.36.29 M28.31.37.29 M28.31.38.29 M28.31.39.29 M28.32.30.29 X
14M28.61.29 M28.62.29 M28.63.29 M28.64.29 M28.65.29 M28.66.29 M28.67.29
M28.68.29 M28.69.29 M28.6a.29 M28.6b.29 M28.6c.29 M28.6d.29 M28.6e.29
M28.6f.29 M28.70.29 M28.71.29 M28.72.29 M28.73.29 M28.74.29 M28.75.29
M28.76.29 M28.77.29 M28.78.29 M28.79.29 M28.7a.29 M61 M62 M63 M64 M65 M66
M67 M68 M69 M6a M6b M6c M6d M6e M6f M70 M71 M72 M73 M74 M75 M76 M77 M78 M79
M7a M61 M62 M63 M64 M65 M66 M67 M68 M69 M6a M6b M6c M6d M6e M6f M70 M71 M72
M73 M74 M75 M76 M77 M78 M79 M7a M30 V 521M222b.222b.222b.222b V 67M3a.3a.3d
M3d.3d M3d.3d.3d V 65M2add.338 V 97X 2V 8aM2c30 M2c31 M2c32 M2c33 M2c34
M2c35 M2c36 M2c37 M2c38 M2c39 M2c3a M2c3b M2c3c M2c3d M2c3e M2c3f M2c40
M2c41 M2c42 M2c43 M2c44 M2c45 M2c46 M2c47 M2c48 M2c49 M2c4a M2c4b M2c4c
M2c4d M2c4e M2c4f M2c50 M2c51 M2c52 M2c53 M2c54 M2c55 M2c56 M2c57 M2c58
M2c59 M2c5a M2c5b M2c5c M2c5d M2c5e M2c5f V 30M2c61 V M26b M1d7d M27d V
2M2c68 V M2c6a V M2c6c V M251 M271 M250 M252 V M2c73 V 2M2c76 V 6M6a M76
M23f M240 M2c81 V M2c83 V M2c85 V M2c87 V M2c89 V M2c8b V M2c8d V M2c8f V
M2c91 V M2c93 V M2c95 V M2c97 V M2c99 V M2c9b V M2c9d V M2c9f V M2ca1 V
M2ca3 V M2ca5 V M2ca7 V M2ca9 V M2cab V M2cad V M2caf V M2cb1 V M2cb3 V
M2cb5 V M2cb7 V M2cb9 V M2cbb V M2cbd V M2cbf V M2cc1 V M2cc3 V M2cc5 V
M2cc7 V M2cc9 V M2ccb V M2ccd V M2ccf V M2cd1 V M2cd3 V M2cd5 V M2cd7 V
M2cd9 V M2cdb V M2cdd V M2cdf V M2ce1 V M2ce3 V 8M2cec V M2cee V 4M2cf3 V X
5V 2dX V X 5V X 2V 38X 7M2d61 V X eV 18X 9V 7X V 7X V 7X V 7X V 7X V 7X V 7X
V 7X V 7eX 22V 1aX V 4M6bcd V 53M9f9f X cM4e00 M4e28 M4e36 M4e3f M4e59 M4e85
M4e8c M4ea0 M4eba M513f M5165 M516b M5182 M5196 M51ab M51e0 M51f5 M5200
M529b M52f9 M5315 M531a M5338 M5341 M535c M5369 M5382 M53b6 M53c8 M53e3
M56d7 M571f M58eb M5902 M590a M5915 M5927 M5973 M5b50 M5b80 M5bf8 M5c0f
M5c22 M5c38 M5c6e M5c71 M5ddb M5de5 M5df1 M5dfe M5e72 M5e7a M5e7f M5ef4
M5efe M5f0b M5f13 M5f50 M5f61 M5f73 M5fc3 M6208 M6236 M624b M652f M6534
M6587 M6597 M65a4 M65b9 M65e0 M65e5 M66f0 M6708 M6728 M6b20 M6b62 M6b79
M6bb3 M6bcb M6bd4 M6bdb M6c0f M6c14 M6c34 M706b M722a M7236 M723b M723f
M7247 M7259 M725b M72ac M7384 M7389 M74dc M74e6 M7518 M751f M7528 M7530
M758b M7592 M7676 M767d M76ae M76bf M76ee M77db M77e2 M77f3 M793a M79b8
M79be M7a74 M7acb M7af9 M7c73 M7cf8 M7f36 M7f51 M7f8a M7fbd M8001 M800c
M8012 M8033 M807f M8089 M81e3 M81ea M81f3 M81fc M820c M821b M821f M826e
M8272 M8278 M864d M866b M8840 M884c M8863 M897e M898b M89d2 M8a00 M8c37
M8c46 M8c55 M8c78 M8c9d M8d64 M8d70 M8db3 M8eab M8eca M8f9b M8fb0 M8fb5
M9091 M9149 M91c6 M91cc M91d1 M9577 M9580 M961c M96b6 M96b9 M96e8 M9751
M975e M9762 M9769 M97cb M97ed M97f3 M9801 M98a8 M98db M98df M9996 M9999
M99ac M9aa8 M9ad8 M9adf M9b25 M9b2f M9b32 M9b3c M9b5a M9ce5 M9e75 M9e7f
M9ea5 M9ebb M9ec3 M9ecd M9ed1 M9ef9 M9efd M9f0e M9f13 M9f20 M9f3b M9f4a
M9f52 M9f8d M9f9c M9fa0 X 2aM20 V M2e V 33M3012 V M5341 M5344 M5345 V 5X V
56X 2V 2M20.3099 M20.309a V 2M3088.308a V 5fM30b3.30c8 X 5V 2bX M1100 M1101
M11aa M1102 M11ac M11ad M1103 M1104 M1105 M11b0 M11b1 M11b2 M11b3 M11b4
M11b5 M111a M1106 M1107 M1108 M1121 M1109 M110a M110b M110c M110d M110e
M110f M1110 M1111 M1112 M1161 M1162 M1163 M1164 M1165 M1166 M1167 M1168
M1169 M116a M116b M116c M116d M116e M116f M1170 M1171 M1172 M1173 M1174
M1175 I M1114 M1115 M11c7 M11c8 M11cc M11ce M11d3 M11d7 M11d9 M111c M11dd
M11df M111d M111e M1120 M1122 M1123 M1127 M1129 M112b M112c M112d M112e
M112f M1132 M1136 M1140 M1147 M114c M11f1 M11f2 M1157 M1158 M1159 M1184
M1185 M1188 M1191 M1192 M1194 M119e M11a1 X V 2M4e00 M4e8c M4e09 M56db M4e0a
M4e2d M4e0b M7532 M4e59 M4e19 M4e01 M5929 M5730 M4eba V 46X aV 10M28.1100.29
M28.1102.29 M28.1103.29 M28.1105.29 M28.1106.29 M28.1107.29 M28.1109.29
M28.110b.29 M28.110c.29 M28.110e.29 M28.110f.29 M28.1110.29 M28.1111.29
M28.1112.29 M28.ac00.29 M28.b098.29 M28.b2e4.29 M28.b77c.29 M28.b9c8.29
M28.bc14.29 M28.c0ac.29 M28.c544.29 M28.c790.29 M28.cc28.29 M28.ce74.29
M28.d0c0.29 M28.d30c.29 M28.d558.29 M28.c8fc.29 M28.c624.c804.29
M28.c624.d6c4.29 X M28.4e00.29 M28.4e8c.29 M28.4e09.29 M28.56db.29
M28.4e94.29 M28.516d.29 M28.4e03.29 M28.516b.29 M28.4e5d.29 M28.5341.29
M28.6708.29 M28.706b.29 M28.6c34.29 M28.6728.29 M28.91d1.29 M28.571f.29
M28.65e5.29 M28.682a.29 M28.6709.29 M28.793e.29 M28.540d.29 M28.7279.29
M28.8ca1.29 M28.795d.29 M28.52b4.29 M28.4ee3.29 M28.547c.29 M28.5b66.29
M28.76e3.29 M28.4f01.29 M28.8cc7.29 M28.5354.29 M28.796d.29 M28.4f11.29
M28.81ea.29 M28.81f3.29 M554f M5e7c M6587 M7b8f V 8M70.74.65 M32.31 M32.32
M32.33 M32.34 M32.35 M32.36 M32.37 M32.38 M32.39 M33.30 M33.31 M33.32 M33.33
M33.34 M33.35 M1100 M1102 M1103 M1105 M1106 M1107 M1109 M110b M110c M110e
M110f M1110 M1111 M1112 Mac00 Mb098 Mb2e4 Mb77c Mb9c8 Mbc14 Mc0ac Mc544
Mc790 Mcc28 Mce74 Md0c0 Md30c Md558 Mcc38.ace0 Mc8fc.c758 Mc6b0 V M4e00
M4e8c M4e09 M56db M4e94 M516d M4e03 M516b M4e5d M5341 M6708 M706b M6c34
M6728 M91d1 M571f M65e5 M682a M6709 M793e M540d M7279 M8ca1 M795d M52b4
M79d8 M7537 M5973 M9069 M512a M5370 M6ce8 M9805 M4f11 M5199 M6b63 M4e0a
M4e2d M4e0b M5de6 M53f3 M533b M5b97 M5b66 M76e3 M4f01 M8cc7 M5354 M591c
M33.36 M33.37 M33.38 M33.39 M34.30 M34.31 M34.32 M34.33 M34.34 M34.35 M34.36
M34.37 M34.38 M34.39 M35.30 M31.6708 M32.6708 M33.6708 M34.6708 M35.6708
M36.6708 M37.6708 M38.6708 M39.6708 M31.30.6708 M31.31.6708 M31.32.6708
M68.67 M65.72.67 M65.76 M6c.74.64 M30a2 M30a4 M30a6 M30a8 M30aa M30ab M30ad
M30af M30b1 M30b3 M30b5 M30b7 M30b9 M30bb M30bd M30bf M30c1 M30c4 M30c6
M30c8 M30ca M30cb M30cc M30cd M30ce M30cf M30d2 M30d5 M30d8 M30db M30de
M30df M30e0 M30e1 M30e2 M30e4 M30e6 M30e8 M30e9 M30ea M30eb M30ec M30ed
M30ef M30f0 M30f1 M30f2 M4ee4.548c M30a2.30d1.30fc.30c8 M30a2.30eb.30d5.30a1
M30a2.30f3.30da.30a2 M30a2.30fc.30eb M30a4.30cb.30f3.30b0 M30a4.30f3.30c1
M30a6.30a9.30f3 M30a8.30b9.30af.30fc.30c9 M30a8.30fc.30ab.30fc
M30aa.30f3.30b9 M30aa.30fc.30e0 M30ab.30a4.30ea M30ab.30e9.30c3.30c8
M30ab.30ed.30ea.30fc M30ac.30ed.30f3 M30ac.30f3.30de M30ae.30ac
M30ae.30cb.30fc M30ad.30e5.30ea.30fc M30ae.30eb.30c0.30fc M30ad.30ed
M30ad.30ed.30b0.30e9.30e0 M30ad.30ed.30e1.30fc.30c8.30eb
M30ad.30ed.30ef.30c3.30c8 M30b0.30e9.30e0 M30b0.30e9.30e0.30c8.30f3
M30af.30eb.30bc.30a4.30ed M30af.30ed.30fc.30cd M30b1.30fc.30b9
M30b3.30eb.30ca M30b3.30fc.30dd M30b5.30a4.30af.30eb
M30b5.30f3.30c1.30fc.30e0 M30b7.30ea.30f3.30b0 M30bb.30f3.30c1
M30bb.30f3.30c8 M30c0.30fc.30b9 M30c7.30b7 M30c9.30eb M30c8.30f3 M30ca.30ce
M30ce.30c3.30c8 M30cf.30a4.30c4 M30d1.30fc.30bb.30f3.30c8 M30d1.30fc.30c4
M30d0.30fc.30ec.30eb M30d4.30a2.30b9.30c8.30eb M30d4.30af.30eb M30d4.30b3
M30d3.30eb M30d5.30a1.30e9.30c3.30c9 M30d5.30a3.30fc.30c8
M30d6.30c3.30b7.30a7.30eb M30d5.30e9.30f3 M30d8.30af.30bf.30fc.30eb
M30da.30bd M30da.30cb.30d2 M30d8.30eb.30c4 M30da.30f3.30b9 M30da.30fc.30b8
M30d9.30fc.30bf M30dd.30a4.30f3.30c8 M30dc.30eb.30c8 M30db.30f3
M30dd.30f3.30c9 M30db.30fc.30eb M30db.30fc.30f3 M30de.30a4.30af.30ed
M30de.30a4.30eb M30de.30c3.30cf M30de.30eb.30af M30de.30f3.30b7.30e7.30f3
M30df.30af.30ed.30f3 M30df.30ea M30df.30ea.30d0.30fc.30eb M30e1.30ac
M30e1.30ac.30c8.30f3 M30e1.30fc.30c8.30eb M30e4.30fc.30c9 M30e4.30fc.30eb
M30e6.30a2.30f3 M30ea.30c3.30c8.30eb M30ea.30e9 M30eb.30d4.30fc
M30eb.30fc.30d6.30eb M30ec.30e0 M30ec.30f3.30c8.30b2.30f3 M30ef.30c3.30c8
M30.70b9 M31.70b9 M32.70b9 M33.70b9 M34.70b9 M35.70b9 M36.70b9 M37.70b9
M38.70b9 M39.70b9 M31.30.70b9 M31.31.70b9 M31.32.70b9 M31.33.70b9
M31.34.70b9 M31.35.70b9 M31.36.70b9 M31.37.70b9 M31.38.70b9 M31.39.70b9
M32.30.70b9 M32.31.70b9 M32.32.70b9 M32.33.70b9 M32.34.70b9 M68.70.61 M64.61
M61.75 M62.61.72 M6f.76 M70.63 M64.6d M64.6d.32 M64.6d.33 M69.75 M5e73.6210
M662d.548c M5927.6b63 M660e.6cbb M682a.5f0f.4f1a.793e M70.61 M6e.61 M3bc.61
M6d.61 M6b.61 M6b.62 M6d.62 M67.62 M63.61.6c M6b.63.61.6c M70.66 M6e.66
M3bc.66 M3bc.67 M6d.67 M6b.67 M68.7a M6b.68.7a M6d.68.7a M67.68.7a M74.68.7a
M3bc.6c M6d.6c M64.6c M6b.6c M66.6d M6e.6d M3bc.6d M6d.6d M63.6d M6b.6d
M6d.6d.32 M63.6d.32 M6d.32 M6b.6d.32 M6d.6d.33 M63.6d.33 M6d.33 M6b.6d.33
M6d.2215.73 M6d.2215.73.32 M70.61 M6b.70.61 M6d.70.61 M67.70.61 M72.61.64
M72.61.64.2215.73 M72.61.64.2215.73.32 M70.73 M6e.73 M3bc.73 M6d.73 M70.76
M6e.76 M3bc.76 M6d.76 M6b.76 M6d.76 M70.77 M6e.77 M3bc.77 M6d.77 M6b.77
M6d.77 M6b.3c9 M6d.3c9 X M62.71 M63.63 M63.64 M63.2215.6b.67 X M64.62 M67.79
M68.61 M68.70 M69.6e M6b.6b M6b.6d M6b.74 M6c.6d M6c.6e M6c.6f.67 M6c.78
M6d.62 M6d.69.6c M6d.6f.6c M70.68 X M70.70.6d M70.72 M73.72 M73.76 M77.62
M76.2215.6d M61.2215.6d M31.65e5 M32.65e5 M33.65e5 M34.65e5 M35.65e5
M36.65e5 M37.65e5 M38.65e5 M39.65e5 M31.30.65e5 M31.31.65e5 M31.32.65e5
M31.33.65e5 M31.34.65e5 M31.35.65e5 M31.36.65e5 M31.37.65e5 M31.38.65e5
M31.39.65e5 M32.30.65e5 M32.31.65e5 M32.32.65e5 M32.33.65e5 M32.34.65e5
M32.35.65e5 M32.36.65e5 M32.37.65e5 M32.38.65e5 M32.39.65e5 M33.30.65e5
M33.31.65e5 M67.61.6c V 708dX 3V 37X 9V 15cX 14Ma641 V Ma643 V Ma645 V Ma647
V Ma649 V Ma64b V Ma64d V Ma64f V Ma651 V Ma653 V Ma655 V Ma657 V Ma659 V
Ma65b V Ma65d V Ma65f V Ma661 V Ma663 V Ma665 V Ma667 V Ma669 V Ma66b V
Ma66d V 13Ma681 V Ma683 V Ma685 V Ma687 V Ma689 V Ma68b V Ma68d V Ma68f V
Ma691 V Ma693 V Ma695 V Ma697 V Ma699 V Ma69b V M44a M44c V 5aX 8V 22Ma723 V
Ma725 V Ma727 V Ma729 V Ma72b V Ma72d V Ma72f V 3Ma733 V Ma735 V Ma737 V
Ma739 V Ma73b V Ma73d V Ma73f V Ma741 V Ma743 V Ma745 V Ma747 V Ma749 V
Ma74b V Ma74d V Ma74f V Ma751 V Ma753 V Ma755 V Ma757 V Ma759 V Ma75b V
Ma75d V Ma75f V Ma761 V Ma763 V Ma765 V Ma767 V Ma769 V Ma76b V Ma76d V
Ma76f V Ma76f V 8Ma77a V Ma77c V M1d79 Ma77f V Ma781 V Ma783 V Ma785 V Ma787
V 4Ma78c V M265 V 2Ma791 V Ma793 V 3Ma797 V Ma799 V Ma79b V Ma79d V Ma79f V
Ma7a1 V Ma7a3 V Ma7a5 V Ma7a7 V Ma7a9 V M266 M25c M261 M26c M26a V M29e M287
M29d Mab53 Ma7b5 V Ma7b7 V Ma7b9 V Ma7bb V Ma7bd V Ma7bf V Ma7c1 V Ma7c3 V
Ma794 M282 M1d8e Ma7c8 V Ma7ca V M264 Ma7cd V Ma7cf V Ma7d1 V Ma7d3 V Ma7d5
V Ma7d7 V Ma7d9 V Ma7db V M19b X 14M73 M63 M66 M71 Ma7f6 V 2M127 M153 V 33X
3V aX 6V 38X 8V 46X 8V cX 6V 74X bV 1eX 3V 4eX V bX 4V 21X V 37X 9V eX 2V aX
2V 67X 18V 1cX aV 6X 2V 6X 2V 6X 9V 7X V 7X V 2cMa727 Mab37 M26b Mab52 V
9M28d V 2X 4M13a0 M13a1 M13a2 M13a3 M13a4 M13a5 M13a6 M13a7 M13a8 M13a9
M13aa M13ab M13ac M13ad M13ae M13af M13b0 M13b1 M13b2 M13b3 M13b4 M13b5
M13b6 M13b7 M13b8 M13b9 M13ba M13bb M13bc M13bd M13be M13bf M13c0 M13c1
M13c2 M13c3 M13c4 M13c5 M13c6 M13c7 M13c8 M13c9 M13ca M13cb M13cc M13cd
M13ce M13cf M13d0 M13d1 M13d2 M13d3 M13d4 M13d5 M13d6 M13d7 M13d8 M13d9
M13da M13db M13dc M13dd M13de M13df M13e0 M13e1 M13e2 M13e3 M13e4 M13e5
M13e6 M13e7 M13e8 M13e9 M13ea M13eb M13ec M13ed M13ee M13ef V 2eX 2V aX 6V
2ba4X cV 17X 4V 31X 2104M8c48 M66f4 M8eca M8cc8 M6ed1 M4e32 M53e5 M9f9c
2M5951 M91d1 M5587 M5948 M61f6 M7669 M7f85 M863f M87ba M88f8 M908f M6a02
M6d1b M70d9 M73de M843d M916a M99f1 M4e82 M5375 M6b04 M721b M862d M9e1e
M5d50 M6feb M85cd M8964 M62c9 M81d8 M881f M5eca M6717 M6d6a M72fc M90ce
M4f86 M51b7 M52de M64c4 M6ad3 M7210 M76e7 M8001 M8606 M865c M8def M9732
M9b6f M9dfa M788c M797f M7da0 M83c9 M9304 M9e7f M8ad6 M58df M5f04 M7c60
M807e M7262 M78ca M8cc2 M96f7 M58d8 M5c62 M6a13 M6dda M6f0f M7d2f M7e37
M964b M52d2 M808b M51dc M51cc M7a1c M7dbe M83f1 M9675 M8b80 M62cf M6a02
M8afe M4e39 M5be7 M6012 M7387 M7570 M5317 M78fb M4fbf M5fa9 M4e0d M6ccc
M6578 M7d22 M53c3 M585e M7701 M8449 M8aaa M6bba M8fb0 M6c88 M62fe M82e5
M63a0 M7565 M4eae M5169 M51c9 M6881 M7ce7 M826f M8ad2 M91cf M52f5 M5442
M5973 M5eec M65c5 M6ffe M792a M95ad M9a6a M9e97 M9ece M529b M66c6 M6b77
M8f62 M5e74 M6190 M6200 M649a M6f23 M7149 M7489 M79ca M7df4 M806f M8f26
M84ee M9023 M934a M5217 M52a3 M54bd M70c8 M88c2 M8aaa M5ec9 M5ff5 M637b
M6bae M7c3e M7375 M4ee4 M56f9 M5be7 M5dba M601c M73b2 M7469 M7f9a M8046
M9234 M96f6 M9748 M9818 M4f8b M79ae M91b4 M96b8 M60e1 M4e86 M50da M5bee
M5c3f M6599 M6a02 M71ce M7642 M84fc M907c M9f8d M6688 M962e M5289 M677b
M67f3 M6d41 M6e9c M7409 M7559 M786b M7d10 M985e M516d M622e M9678 M502b
M5d19 M6dea M8f2a M5f8b M6144 M6817 M7387 M9686 M5229 M540f M5c65 M6613
M674e M68a8 M6ce5 M7406 M75e2 M7f79 M88cf M88e1 M91cc M96e2 M533f M6eba
M541d M71d0 M7498 M85fa M96a3 M9c57 M9e9f M6797 M6dcb M81e8 M7acb M7b20
M7c92 M72c0 M7099 M8b58 M4ec0 M8336 M523a M5207 M5ea6 M62d3 M7cd6 M5b85
M6d1e M66b4 M8f3b M884c M964d M898b M5ed3 M5140 M55c0 V 2M585a V M6674 V
2M51de M732a M76ca M793c M795e M7965 M798f M9756 M7cbe M7fbd V M8612 V M8af8
V 2M9038 M90fd V 3M98ef M98fc M9928 M9db4 M90de M96b7 M4fae M50e7 M514d
M52c9 M52e4 M5351 M559d M5606 M5668 M5840 M58a8 M5c64 M5c6e M6094 M6168
M618e M61f2 M654f M65e2 M6691 M6885 M6d77 M6e1a M6f22 M716e M722b M7422
M7891 M793e M7949 M7948 M7950 M7956 M795d M798d M798e M7a40 M7a81 M7bc0
M7df4 M7e09 M7e41 M7f72 M8005 M81ed M8279 2M8457 M8910 M8996 M8b01 M8b39
M8cd3 M8d08 M8fb6 M9038 M96e3 M97ff M983b M6075 M242ee M8218 X 2M4e26 M51b5
M5168 M4f80 M5145 M5180 M52c7 M52fa M559d M5555 M5599 M55e2 M585a M58b3
M5944 M5954 M5a62 M5b28 M5ed2 M5ed9 M5f69 M5fad M60d8 M614e M6108 M618e
M6160 M61f2 M6234 M63c4 M641c M6452 M6556 M6674 M6717 M671b M6756 M6b79
M6bba M6d41 M6edb M6ecb M6f22 M701e M716e M77a7 M7235 M72af M732a M7471
M7506 M753b M761d M761f M76ca M76db M76f4 M774a M7740 M78cc M7ab1 M7bc0
M7c7b M7d5b M7df4 M7f3e M8005 M8352 M83ef M8779 M8941 M8986 M8996 M8abf
M8af8 M8acb M8b01 M8afe M8aed M8b39 M8b8a M8d08 M8f38 M9072 M9199 M9276
M967c M96e3 M9756 M97db M97ff M980b M983b M9b12 M9f9c M2284a M22844 M233d5
M3b9d M4018 M4039 M25249 M25cd0 M27ed3 M9f43 M9f8e X 26M66.66 M66.69 M66.6c
M66.66.69 M66.66.6c M73.74 2X cM574.576 M574.565 M574.56b M57e.576 M574.56d
X 5M5d9.5b4 V M5f2.5b7 M5e2 M5d0 M5d3 M5d4 M5db M5dc M5dd M5e8 M5ea M2b
M5e9.5c1 M5e9.5c2 M5e9.5bc.5c1 M5e9.5bc.5c2 M5d0.5b7 M5d0.5b8 M5d0.5bc
M5d1.5bc M5d2.5bc M5d3.5bc M5d4.5bc M5d5.5bc M5d6.5bc X M5d8.5bc M5d9.5bc
M5da.5bc M5db.5bc M5dc.5bc X M5de.5bc X M5e0.5bc M5e1.5bc X M5e3.5bc
M5e4.5bc X M5e6.5bc M5e7.5bc M5e8.5bc M5e9.5bc M5ea.5bc M5d5.5b9 M5d1.5bf
M5db.5bf M5e4.5bf M5d0.5dc M671 2M67b 4M67e 4M680 4M67a 4M67f 4M679 4M6a4
4M6a6 4M684 4M683 4M686 4M687 4M68d 2M68c 2M68e 2M688 2M698 2M691 2M6a9
4M6af 4M6b3 4M6b1 4M6ba 2M6bb 4M6c0 2M6c1 4M6be 4M6d2 2M6d3 2V 21M6ad 4M6c7
2M6c6 2M6c8 2M6c7.674 M6cb 2M6c5 2M6c9 2M6d0 4M649 2M626.627 2M626.6d5
2M626.648 2M626.6c7 2M626.6c6 2M626.6c8 2M626.6d0 3M626.649 3M6cc 4M626.62c
M626.62d M626.645 M626.649 M626.64a M628.62c M628.62d M628.62e M628.645
M628.649 M628.64a M62a.62c M62a.62d M62a.62e M62a.645 M62a.649 M62a.64a
M62b.62c M62b.645 M62b.649 M62b.64a M62c.62d M62c.645 M62d.62c M62d.645
M62e.62c M62e.62d M62e.645 M633.62c M633.62d M633.62e M633.645 M635.62d
M635.645 M636.62c M636.62d M636.62e M636.645 M637.62d M637.645 M638.645
M639.62c M639.645 M63a.62c M63a.645 M641.62c M641.62d M641.62e M641.645
M641.649 M641.64a M642.62d M642.645 M642.649 M642.64a M643.627 M643.62c
M643.62d M643.62e M643.644 M643.645 M643.649 M643.64a M644.62c M644.62d
M644.62e M644.645 M644.649 M644.64a M645.62c M645.62d M645.62e M645.645
M645.649 M645.64a M646.62c M646.62d M646.62e M646.645 M646.649 M646.64a
M647.62c M647.645 M647.649 M647.64a M64a.62c M64a.62d M64a.62e M64a.645
M64a.649 M64a.64a M630.670 M631.670 M649.670 M20.64c.651 M20.64d.651
M20.64e.651 M20.64f.651 M20.650.651 M20.651.670 M626.631 M626.632 M626.645
M626.646 M626.649 M626.64a M628.631 M628.632 M628.645 M628.646 M628.649
M628.64a M62a.631 M62a.632 M62a.645 M62a.646 M62a.649 M62a.64a M62b.631
M62b.632 M62b.645 M62b.646 M62b.649 M62b.64a M641.649 M641.64a M642.649
M642.64a M643.627 M643.644 M643.645 M643.649 M643.64a M644.645 M644.649
M644.64a M645.627 M645.645 M646.631 M646.632 M646.645 M646.646 M646.649
M646.64a M649.670 M64a.631 M64a.632 M64a.645 M64a.646 M64a.649 M64a.64a
M626.62c M626.62d M626.62e M626.645 M626.647 M628.62c M628.62d M628.62e
M628.645 M628.647 M62a.62c M62a.62d M62a.62e M62a.645 M62a.647 M62b.645
M62c.62d M62c.645 M62d.62c M62d.645 M62e.62c M62e.645 M633.62c M633.62d
M633.62e M633.645 M635.62d M635.62e M635.645 M636.62c M636.62d M636.62e
M636.645 M637.62d M638.645 M639.62c M639.645 M63a.62c M63a.645 M641.62c
M641.62d M641.62e M641.645 M642.62d M642.645 M643.62c M643.62d M643.62e
M643.644 M643.645 M644.62c M644.62d M644.62e M644.645 M644.647 M645.62c
M645.62d M645.62e M645.645 M646.62c M646.62d M646.62e M646.645 M646.647
M647.62c M647.645 M647.670 M64a.62c M64a.62d M64a.62e M64a.645 M64a.647
M626.645 M626.647 M628.645 M628.647 M62a.645 M62a.647 M62b.645 M62b.647
M633.645 M633.647 M634.645 M634.647 M643.644 M643.645 M644.645 M646.645
M646.647 M64a.645 M64a.647 M640.64e.651 M640.64f.651 M640.650.651 M637.649
M637.64a M639.649 M639.64a M63a.649 M63a.64a M633.649 M633.64a M634.649
M634.64a M62d.649 M62d.64a M62c.649 M62c.64a M62e.649 M62e.64a M635.649
M635.64a M636.649 M636.64a M634.62c M634.62d M634.62e M634.645 M634.631
M633.631 M635.631 M636.631 M637.649 M637.64a M639.649 M639.64a M63a.649
M63a.64a M633.649 M633.64a M634.649 M634.64a M62d.649 M62d.64a M62c.649
M62c.64a M62e.649 M62e.64a M635.649 M635.64a M636.649 M636.64a M634.62c
M634.62d M634.62e M634.645 M634.631 M633.631 M635.631 M636.631 M634.62c
M634.62d M634.62e M634.645 M633.647 M634.647 M637.645 M633.62c M633.62d
M633.62e M634.62c M634.62d M634.62e M637.645 M638.645 M627.64b 2V
12M62a.62c.645 M62a.62d.62c 2M62a.62d.645 M62a.62e.645 M62a.645.62c
M62a.645.62d M62a.645.62e M62c.645.62d 2M62d.645.64a M62d.645.649
M633.62d.62c M633.62c.62d M633.62c.649 M633.645.62d 2M633.645.62c
M633.645.645 2M635.62d.62d 2M635.645.645 M634.62d.645 2M634.62c.64a
M634.645.62e 2M634.645.645 2M636.62d.649 M636.62e.645 2M637.645.62d
2M637.645.645 M637.645.64a M639.62c.645 M639.645.645 2M639.645.649
M63a.645.645 M63a.645.64a M63a.645.649 M641.62e.645 2M642.645.62d
M642.645.645 M644.62d.645 M644.62d.64a M644.62d.649 M644.62c.62c
2M644.62e.645 2M644.645.62d 2M645.62d.62c M645.62d.645 M645.62d.64a
M645.62c.62d M645.62c.645 M645.62e.62c M645.62e.645 V 2M645.62c.62e
M647.645.62c M647.645.645 M646.62d.645 M646.62d.649 M646.62c.645
2M646.62c.649 M646.645.64a M646.645.649 M64a.645.645 2M628.62e.64a
M62a.62c.64a M62a.62c.649 M62a.62e.64a M62a.62e.649 M62a.645.64a
M62a.645.649 M62c.645.64a M62c.62d.649 M62c.645.649 M633.62e.649
M635.62d.64a M634.62d.64a M636.62d.64a M644.62c.64a M644.645.64a
M64a.62d.64a M64a.62c.64a M64a.645.64a M645.645.64a M642.645.64a
M646.62d.64a M642.645.62d M644.62d.645 M639.645.64a M643.645.64a
M646.62c.62d M645.62e.64a M644.62c.645 M643.645.645 M644.62c.645
M646.62c.62d M62c.62d.64a M62d.62c.64a M645.62c.64a M641.645.64a
M628.62d.64a M643.645.645 M639.62c.645 M635.645.645 M633.62e.64a
M646.62c.64a V 8X 20M635.644.6d2 M642.644.6d2 M627.644.644.647
M627.643.628.631 M645.62d.645.62f M635.644.639.645 M631.633.648.644
M639.644.64a.647 M648.633.644.645 M635.644.649
M635.644.649.20.627.644.644.647.20.639.644.64a.647.20.648.633.644.645
M62c.644.20.62c.644.627.644.647 M631.6cc.627.644 V 3I 10M2c M3001 X M3a M3b
M21 M3f M3016 M3017 X 7V 10X M2014 M2013 M5f 2M28 M29 M7b M7d M3014 M3015
M3010 M3011 M300a M300b M3008 M3009 M300c M300d M300e M300f V 2M5b M5d
M20.305 4M5f 3M2c M3001 X 2M3b M3a M3f M21 M2014 M28 M29 M7b M7d M3014 M3015
M23 M26 M2a M2b M2d M3c M3e M3d X M5c M24 M25 M40 X 4M20.64b M640.64b
M20.64c V M20.64d X M20.64e M640.64e M20.64f M640.64f M20.650 M640.650
M20.651 M640.651 M20.652 M640.652 M621 M622 2M623 2M624 2M625 2M626 4M627
2M628 4M629 2M62a 4M62b 4M62c 4M62d 4M62e 4M62f 2M630 2M631 2M632 2M633
4M634 4M635 4M636 4M637 4M638 4M639 4M63a 4M641 4M642 4M643 4M644 4M645
4M646 4M647 4M648 2M649 2M64a 4M644.622 2M644.623 2M644.625 2M644.627 2X 2I
X M21 M22 M23 M24 M25 M26 M27 M28 M29 M2a M2b M2c M2d M2e M2f M30 M31 M32
M33 M34 M35 M36 M37 M38 M39 M3a M3b M3c M3d M3e M3f M40 M61 M62 M63 M64 M65
M66 M67 M68 M69 M6a M6b M6c M6d M6e M6f M70 M71 M72 M73 M74 M75 M76 M77 M78
M79 M7a M5b M5c M5d M5e M5f M60 M61 M62 M63 M64 M65 M66 M67 M68 M69 M6a M6b
M6c M6d M6e M6f M70 M71 M72 M73 M74 M75 M76 M77 M78 M79 M7a M7b M7c M7d M7e
M2985 M2986 M2e M300c M300d M3001 M30fb M30f2 M30a1 M30a3 M30a5 M30a7 M30a9
M30e3 M30e5 M30e7 M30c3 M30fc M30a2 M30a4 M30a6 M30a8 M30aa M30ab M30ad
M30af M30b1 M30b3 M30b5 M30b7 M30b9 M30bb M30bd M30bf M30c1 M30c4 M30c6
M30c8 M30ca M30cb M30cc M30cd M30ce M30cf M30d2 M30d5 M30d8 M30db M30de
M30df M30e0 M30e1 M30e2 M30e4 M30e6 M30e8 M30e9 M30ea M30eb M30ec M30ed
M30ef M30f3 M3099 M309a I M1100 M1101 M11aa M1102 M11ac M11ad M1103 M1104
M1105 M11b0 M11b1 M11b2 M11b3 M11b4 M11b5 M111a M1106 M1107 M1108 M1121
M1109 M110a M110b M110c M110d M110e M110f M1110 M1111 M1112 X 3M1161 M1162
M1163 M1164 M1165 M1166 X 2M1167 M1168 M1169 M116a M116b M116c X 2M116d
M116e M116f M1170 M1171 M1172 X 2M1173 M1174 M1175 X 3Ma2 Ma3 Mac M20.304
Ma6 Ma5 M20a9 X M2502 M2190 M2191 M2192 M2193 M25a0 M25cb X 11V cX V 1aX V
13X V 2X V fX 2V eX 22V 7bX 5V 3X 4V 2dX 3V 58X V dX 3V X 2fV 2eX 82V 1dX 3V
31X fV 1cX 4V 24X 9V 1eX 5V 2bX 5V 1eX V 25X 4V eX 2aM10428 M10429 M1042a
M1042b M1042c M1042d M1042e M1042f M10430 M10431 M10432 M10433 M10434 M10435
M10436 M10437 M10438 M10439 M1043a M1043b M1043c M1043d M1043e M1043f M10440
M10441 M10442 M10443 M10444 M10445 M10446 M10447 M10448 M10449 M1044a M1044b
M1044c M1044d M1044e M1044f V 76X 2V aX 6M104d8 M104d9 M104da M104db M104dc
M104dd M104de M104df M104e0 M104e1 M104e2 M104e3 M104e4 M104e5 M104e6 M104e7
M104e8 M104e9 M104ea M104eb M104ec M104ed M104ee M104ef M104f0 M104f1 M104f2
M104f3 M104f4 M104f5 M104f6 M104f7 M104f8 M104f9 M104fa M104fb X 4V 24X 4V
28X 8V 34X bV M10597 M10598 M10599 M1059a M1059b M1059c M1059d M1059e M1059f
M105a0 M105a1 X M105a3 M105a4 M105a5 M105a6 M105a7 M105a8 M105a9 M105aa
M105ab M105ac M105ad M105ae M105af M105b0 M105b1 X M105b3 M105b4 M105b5
M105b6 M105b7 M105b8 M105b9 X M105bb M105bc X V bX V fX V 7X V 2X 3V 34X cV
137X 9V 16X aV 8X 18V M2d0 M2d1 Me6 M299 M253 X M2a3 Mab66 M2a5 M2a4 M256
M257 M1d91 M258 M25e M2a9 M264 M262 M260 M29b M127 M29c M267 M284 M2aa M2ab
M26c M1df04 Ma78e M26e M1df05 M28e M1df06 Mf8 M276 M277 M71 M27a M1df08 M27d
M27e M280 M2a8 M2a6 Mab67 M2a7 M288 M2c71 X M28f M2a1 M2a2 M298 M1c0 M1c1
M1c2 M1df0a M1df1e X 45V 6X 2V X V 2cX V 2X 3V X 2V 17X V 48X 8V 9X 30V 13X
V 2X 5V 21X 3V 1bX 5V 1bX 26V 38X 4V 14X 2V 32X V 2X 5V 8X V 3X V 1dX 2V 3X
4V aX 7V 9X 7V 40X 20V 27X 4V cX 9V 36X 3V 1dX 2V 1bX 5V 1aX 7V 4X cV 7X 50V
49X 37M10cc0 M10cc1 M10cc2 M10cc3 M10cc4 M10cc5 M10cc6 M10cc7 M10cc8 M10cc9
M10cca M10ccb M10ccc M10ccd M10cce M10ccf M10cd0 M10cd1 M10cd2 M10cd3 M10cd4
M10cd5 M10cd6 M10cd7 M10cd8 M10cd9 M10cda M10cdb M10cdc M10cdd M10cde M10cdf
M10ce0 M10ce1 M10ce2 M10ce3 M10ce4 M10ce5 M10ce6 M10ce7 M10ce8 M10ce9 M10cea
M10ceb M10cec M10ced M10cee M10cef M10cf0 M10cf1 M10cf2 X dV 33X 7V 2eX 8V
aX 6V 10M10d70 M10d71 M10d72 M10d73 M10d74 M10d75 M10d76 M10d77 M10d78
M10d79 M10d7a M10d7b M10d7c M10d7d M10d7e M10d7f M10d80 M10d81 M10d82 M10d83
M10d84 M10d85 X 3V 1dX 8V 2X d0V 1fX V 2aX V 3X 2V 2X 10V 6X 8V 9X 21V 2eX
8V 2aX 16V 1aX 26V 1cX 14V 17X 9V 4eX 4V 24X 9V 3eX V 5X dV 19X 7V aX 6V 35X
V 12X 8V 27X 9V 60X V 14X bV 12X V 2fX 3eV 7X V X V 4X V fX V bX 6V 3bX 5V
aX 6V 4X V 8X 2V 2X 2V 16X V 7X V 2X V 5X V aX 2V 2X 2V 3X 2V X 6V X 5V 7X
2V 7X 3V 5X bV aX V X 2V X V 26X V aX V X 2V X V 4X V aX V 2X 8V 2X 1dV 5cX
V 5X 1eV 48X 8V aX a6V 36X 2V 26X 22V 45X bV aX 6V dX 13V 3aX 6V aX 6V 14X
1cV 1bX 2V fX 4V 17X b9V 3cX 64M118c0 M118c1 M118c2 M118c3 M118c4 M118c5
M118c6 M118c7 M118c8 M118c9 M118ca M118cb M118cc M118cd M118ce M118cf M118d0
M118d1 M118d2 M118d3 M118d4 M118d5 M118d6 M118d7 M118d8 M118d9 M118da M118db
M118dc M118dd M118de M118df V 33X cV 8X 2V X 2V 8X V 2X V 1eX V 2X 2V cX 9V
aX 46V 8X 2V 2eX 2V bX 1bV 48X 8V 53X dV 49X 7V aX 56V 8X 58V 22X eV aX 6V
9X V 2dX V eX aV 1dX 3V 20X 2V 16X V eX 49V 7X V 2X V 2cX 3V X V 2X V 9X 8V
aX 6V 6X V 2X V 25X V 2X V 6X 7V aX 6V 2cX 4V aX f6V 19X 7V 11X V 29X 3V 1dX
55V X fV 32X dV 39bX 66V 6fX V 5X bV c4X a4cV 63X dV 430X 10V 16X aV f9bX 5V
247X 1ab9V 3aX 6c6V 239X 7V 1fX V aX 4V 51X V aX 6V 1eX 2V 6X aV 46X aV aX V
7X V 15X 5V 13X 1b0V 3aX c6M16e60 M16e61 M16e62 M16e63 M16e64 M16e65 M16e66
M16e67 M16e68 M16e69 M16e6a M16e6b M16e6c M16e6d M16e6e M16e6f M16e70 M16e71
M16e72 M16e73 M16e74 M16e75 M16e76 M16e77 M16e78 M16e79 M16e7a M16e7b M16e7c
M16e7d M16e7e M16e7f V 3bX 5M16ebb M16ebc M16ebd M16ebe M16ebf M16ec0 M16ec1
M16ec2 M16ec3 M16ec4 M16ec5 M16ec6 M16ec7 M16ec8 M16ec9 M16eca M16ecb M16ecc
M16ecd M16ece M16ecf M16ed0 M16ed1 M16ed2 M16ed3 X 2V 19X 2cV 4bX 4V 39X 7V
11X 40V 5X bV 7X 9V 1cd6X 29V 20X 61V 73X 21fdV 4X V 7X V 2X V 123X fV X 1dV
3X 2V X eV 4X 8V 18cX 904V 6bX 5V dX 3V 9X 7V aX 2V 4I 4X f5cV d6M61 M62 M63
M64 M65 M66 M67 M68 M69 M6a M6b M6c M6d M6e M6f M70 M71 M72 M73 M74 M75 M76
M77 M78 M79 M7a M30 M31 M32 M33 M34 M35 M36 M37 M38 M39 V 3X 3V 1b4X 6V 17X
fV 11X fV 2eX 2V 17X 9V 74X 3cV f6X aV 27X 2V 35M1d157.1d165 M1d158.1d165
M1d158.1d165.1d16e M1d158.1d165.1d16f M1d158.1d165.1d170 M1d158.1d165.1d171
M1d158.1d165.1d172 V eI 8V 40M1d1b9.1d165 M1d1ba.1d165 M1d1b9.1d165.1d16e
M1d1ba.1d165.1d16e M1d1b9.1d165.1d16f M1d1ba.1d165.1d16f V 2aX 15V 46X 7aV
14X cV 14X cV 57X 9V 19X 87M61 M62 M63 M64 M65 M66 M67 M68 M69 M6a M6b M6c
M6d M6e M6f M70 M71 M72 M73 M74 M75 M76 M77 M78 M79 M7a M61 M62 M63 M64 M65
M66 M67 M68 M69 M6a M6b M6c M6d M6e M6f M70 M71 M72 M73 M74 M75 M76 M77 M78
M79 M7a M61 M62 M63 M64 M65 M66 M67 M68 M69 M6a M6b M6c M6d M6e M6f M70 M71
M72 M73 M74 M75 M76 M77 M78 M79 M7a M61 M62 M63 M64 M65 M66 M67 X M69 M6a
M6b M6c M6d M6e M6f M70 M71 M72 M73 M74 M75 M76 M77 M78 M79 M7a M61 M62 M63
M64 M65 M66 M67 M68 M69 M6a M6b M6c M6d M6e M6f M70 M71 M72 M73 M74 M75 M76
M77 M78 M79 M7a M61 M62 M63 M64 M65 M66 M67 M68 M69 M6a M6b M6c M6d M6e M6f
M70 M71 M72 M73 M74 M75 M76 M77 M78 M79 M7a M61 X M63 M64 X 2M67 X 2M6a M6b
X 2M6e M6f M70 M71 X M73 M74 M75 M76 M77 M78 M79 M7a M61 M62 M63 M64 X M66 X
M68 M69 M6a M6b M6c M6d M6e X M70 M71 M72 M73 M74 M75 M76 M77 M78 M79 M7a
M61 M62 M63 M64 M65 M66 M67 M68 M69 M6a M6b M6c M6d M6e M6f M70 M71 M72 M73
M74 M75 M76 M77 M78 M79 M7a M61 M62 M63 M64 M65 M66 M67 M68 M69 M6a M6b M6c
M6d M6e M6f M70 M71 M72 M73 M74 M75 M76 M77 M78 M79 M7a M61 M62 X M64 M65
M66 M67 X 2M6a M6b M6c M6d M6e M6f M70 M71 X M73 M74 M75 M76 M77 M78 M79 X
M61 M62 M63 M64 M65 M66 M67 M68 M69 M6a M6b M6c M6d M6e M6f M70 M71 M72 M73
M74 M75 M76 M77 M78 M79 M7a M61 M62 X M64 M65 M66 M67 X M69 M6a M6b M6c M6d
X M6f X 3M73 M74 M75 M76 M77 M78 M79 X M61 M62 M63 M64 M65 M66 M67 M68 M69
M6a M6b M6c M6d M6e M6f M70 M71 M72 M73 M74 M75 M76 M77 M78 M79 M7a M61 M62
M63 M64 M65 M66 M67 M68 M69 M6a M6b M6c M6d M6e M6f M70 M71 M72 M73 M74 M75
M76 M77 M78 M79 M7a M61 M62 M63 M64 M65 M66 M67 M68 M69 M6a M6b M6c M6d M6e
M6f M70 M71 M72 M73 M74 M75 M76 M77 M78 M79 M7a M61 M62 M63 M64 M65 M66 M67
M68 M69 M6a M6b M6c M6d M6e M6f M70 M71 M72 M73 M74 M75 M76 M77 M78 M79 M7a
M61 M62 M63 M64 M65 M66 M67 M68 M69 M6a M6b M6c M6d M6e M6f M70 M71 M72 M73
M74 M75 M76 M77 M78 M79 M7a M61 M62 M63 M64 M65 M66 M67 M68 M69 M6a M6b M6c
M6d M6e M6f M70 M71 M72 M73 M74 M75 M76 M77 M78 M79 M7a M61 M62 M63 M64 M65
M66 M67 M68 M69 M6a M6b M6c M6d M6e M6f M70 M71 M72 M73 M74 M75 M76 M77 M78
M79 M7a M61 M62 M63 M64 M65 M66 M67 M68 M69 M6a M6b M6c M6d M6e M6f M70 M71
M72 M73 M74 M75 M76 M77 M78 M79 M7a M61 M62 M63 M64 M65 M66 M67 M68 M69 M6a
M6b M6c M6d M6e M6f M70 M71 M72 M73 M74 M75 M76 M77 M78 M79 M7a M61 M62 M63
M64 M65 M66 M67 M68 M69 M6a M6b M6c M6d M6e M6f M70 M71 M72 M73 M74 M75 M76
M77 M78 M79 M7a M61 M62 M63 M64 M65 M66 M67 M68 M69 M6a M6b M6c M6d M6e M6f
M70 M71 M72 M73 M74 M75 M76 M77 M78 M79 M7a M61 M62 M63 M64 M65 M66 M67 M68
M69 M6a M6b M6c M6d M6e M6f M70 M71 M72 M73 M74 M75 M76 M77 M78 M79 M7a M61
M62 M63 M64 M65 M66 M67 M68 M69 M6a M6b M6c M6d M6e M6f M70 M71 M72 M73 M74
M75 M76 M77 M78 M79 M7a M131 M237 X 2M3b1 M3b2 M3b3 M3b4 M3b5 M3b6 M3b7 M3b8
M3b9 M3ba M3bb M3bc M3bd M3be M3bf M3c0 M3c1 M3b8 M3c3 M3c4 M3c5 M3c6 M3c7
M3c8 M3c9 M2207 M3b1 M3b2 M3b3 M3b4 M3b5 M3b6 M3b7 M3b8 M3b9 M3ba M3bb M3bc
M3bd M3be M3bf M3c0 M3c1 M3c3 2M3c4 M3c5 M3c6 M3c7 M3c8 M3c9 M2202 M3b5 M3b8
M3ba M3c6 M3c1 M3c0 M3b1 M3b2 M3b3 M3b4 M3b5 M3b6 M3b7 M3b8 M3b9 M3ba M3bb
M3bc M3bd M3be M3bf M3c0 M3c1 M3b8 M3c3 M3c4 M3c5 M3c6 M3c7 M3c8 M3c9 M2207
M3b1 M3b2 M3b3 M3b4 M3b5 M3b6 M3b7 M3b8 M3b9 M3ba M3bb M3bc M3bd M3be M3bf
M3c0 M3c1 M3c3 2M3c4 M3c5 M3c6 M3c7 M3c8 M3c9 M2202 M3b5 M3b8 M3ba M3c6 M3c1
M3c0 M3b1 M3b2 M3b3 M3b4 M3b5 M3b6 M3b7 M3b8 M3b9 M3ba M3bb M3bc M3bd M3be
M3bf M3c0 M3c1 M3b8 M3c3 M3c4 M3c5 M3c6 M3c7 M3c8 M3c9 M2207 M3b1 M3b2 M3b3
M3b4 M3b5 M3b6 M3b7 M3b8 M3b9 M3ba M3bb M3bc M3bd M3be M3bf M3c0 M3c1 M3c3
2M3c4 M3c5 M3c6 M3c7 M3c8 M3c9 M2202 M3b5 M3b8 M3ba M3c6 M3c1 M3c0 M3b1 M3b2
M3b3 M3b4 M3b5 M3b6 M3b7 M3b8 M3b9 M3ba M3bb M3bc M3bd M3be M3bf M3c0 M3c1
M3b8 M3c3 M3c4 M3c5 M3c6 M3c7 M3c8 M3c9 M2207 M3b1 M3b2 M3b3 M3b4 M3b5 M3b6
M3b7 M3b8 M3b9 M3ba M3bb M3bc M3bd M3be M3bf M3c0 M3c1 M3c3 2M3c4 M3c5 M3c6
M3c7 M3c8 M3c9 M2202 M3b5 M3b8 M3ba M3c6 M3c1 M3c0 M3b1 M3b2 M3b3 M3b4 M3b5
M3b6 M3b7 M3b8 M3b9 M3ba M3bb M3bc M3bd M3be M3bf M3c0 M3c1 M3b8 M3c3 M3c4
M3c5 M3c6 M3c7 M3c8 M3c9 M2207 M3b1 M3b2 M3b3 M3b4 M3b5 M3b6 M3b7 M3b8 M3b9
M3ba M3bb M3bc M3bd M3be M3bf M3c0 M3c1 M3c3 2M3c4 M3c5 M3c6 M3c7 M3c8 M3c9
M2202 M3b5 M3b8 M3ba M3c6 M3c1 M3c0 M3dd 2X 2M30 M31 M32 M33 M34 M35 M36 M37
M38 M39 M30 M31 M32 M33 M34 M35 M36 M37 M38 M39 M30 M31 M32 M33 M34 M35 M36
M37 M38 M39 M30 M31 M32 M33 M34 M35 M36 M37 M38 M39 M30 M31 M32 M33 M34 M35
M36 M37 M38 M39 V 28cX fV 5X V fX 450V 1fX 6V 6X d5V 7X V 11X 2V 7X V 2X V
5X 5M430 M431 M432 M433 M434 M435 M436 M437 M438 M43a M43b M43c M43e M43f
M440 M441 M442 M443 M444 M445 M446 M447 M448 M44b M44d M44e Ma689 M4d9 M456
M458 M4e9 M4af M4cf M430 M431 M432 M433 M434 M435 M436 M437 M438 M43a M43b
M43e M43f M441 M443 M444 M445 M446 M447 M448 M44a M44b M491 M456 M455 M45f
M4ab Ma651 M4b1 X 21V X 70V 2dX 3V eX 2V aX 4V 2X 140V 1fX 11V 3aX 5V X 1d0V
2aX d6V 2bX 4V X c0V 1fX V 16X 8V 2X e0V 7X V 4X V 2X V fX V c5X 2V 10X
29M1e922 M1e923 M1e924 M1e925 M1e926 M1e927 M1e928 M1e929 M1e92a M1e92b
M1e92c M1e92d M1e92e M1e92f M1e930 M1e931 M1e932 M1e933 M1e934 M1e935 M1e936
M1e937 M1e938 M1e939 M1e93a M1e93b M1e93c M1e93d M1e93e M1e93f M1e940 M1e941
M1e942 M1e943 V 2aX 4V aX 4V 2X 311V 44X 4cV 3dX c2M627 M628 M62c M62f X
M648 M632 M62d M637 M64a M643 M644 M645 M646 M633 M639 M641 M635 M642 M631
M634 M62a M62b M62e M630 M636 M638 M63a M66e M6ba M6a1 M66f X M628 M62c X
M647 X 2M62d X M64a M643 M644 M645 M646 M633 M639 M641 M635 M642 X M634 M62a
M62b M62e X M636 X M63a X 6M62c X 4M62d X M64a X M644 X M646 M633 M639 X
M635 M642 X M634 X 2M62e X M636 X M63a X M6ba X M66f X M628 M62c X M647 X
2M62d M637 M64a M643 X M645 M646 M633 M639 M641 M635 M642 X M634 M62a M62b
M62e X M636 M638 M63a M66e X M6a1 X M627 M628 M62c M62f M647 M648 M632 M62d
M637 M64a X M644 M645 M646 M633 M639 M641 M635 M642 M631 M634 M62a M62b M62e
M630 M636 M638 M63a X 5M628 M62c M62f X M648 M632 M62d M637 M64a X M644 M645
M646 M633 M639 M641 M635 M642 M631 M634 M62a M62b M62e M630 M636 M638 M63a X
34V 2X 10eV 2cX 4V 64X cV fX 2V fX V fX V 25X bM30.2c M31.2c M32.2c M33.2c
M34.2c M35.2c M36.2c M37.2c M38.2c M39.2c V 5M28.61.29 M28.62.29 M28.63.29
M28.64.29 M28.65.29 M28.66.29 M28.67.29 M28.68.29 M28.69.29 M28.6a.29
M28.6b.29 M28.6c.29 M28.6d.29 M28.6e.29 M28.6f.29 M28.70.29 M28.71.29
M28.72.29 M28.73.29 M28.74.29 M28.75.29 M28.76.29 M28.77.29 M28.78.29
M28.79.29 M28.7a.29 M3014.73.3015 M63 M72 M63.64 M77.7a V M61 M62 M63 M64
M65 M66 M67 M68 M69 M6a M6b M6c M6d M6e M6f M70 M71 M72 M73 M74 M75 M76 M77
M78 M79 M7a M68.76 M6d.76 M73.64 M73.73 M70.70.76 M77.63 V 1aM6d.63 M6d.64
M6d.72 V 23M64.6a V 1dX 38V 1aM307b.304b M30b3.30b3 M30b5 X dM624b M5b57
M53cc M30c7 M4e8c M591a M89e3 M5929 M4ea4 M6620 M7121 M6599 M524d M5f8c
M518d M65b0 M521d M7d42 M751f M8ca9 M58f0 M5439 M6f14 M6295 M6355 M4e00
M4e09 M904a M5de6 M4e2d M53f3 M6307 M8d70 M6253 M7981 M7a7a M5408 M6e80
M6709 M6708 M7533 M5272 M55b6 M914d X 4M3014.672c.3015 M3014.4e09.3015
M3014.4e8c.3015 M3014.5b89.3015 M3014.70b9.3015 M3014.6253.3015
M3014.76d7.3015 M3014.52dd.3015 M3014.6557.3015 X 7M5f97 M53ef X eV 6X 9aV
3d9X 3V 11X 3V dX 3V daX 6V cX 4V X fV cX 4V 38X 8V aX 6V 28X 8V 1eX 2V cX
4V 2X eV 9X 27V 158X 8V eX 2V dX 3V bX 3V 39X V X 4V 10X 2V cX 4V aX 7V 93X
V 5cM30 M31 M32 M33 M34 M35 M36 M37 M38 M39 V X 405V a6e0X 20V 111eX 2V
168eX 2V 1d31X fV 26eX 9a2M4e3d M4e38 M4e41 M20122 M4f60 M4fae M4fbb M5002
M507a M5099 M50e7 M50cf M349e M2063a M514d M5154 M5164 M5177 M2051c M34b9
M5167 M518d M2054b M5197 M51a4 M4ecc M51ac M51b5 M291df M51f5 M5203 M34df
M523b M5246 M5272 M5277 M3515 M52c7 M52c9 M52e4 M52fa M5305 M5306 M5317
M5349 M5351 M535a M5373 M537d M537f 3M20a2c M7070 M53ca M53df M20b63 M53eb
M53f1 M5406 M549e M5438 M5448 M5468 M54a2 M54f6 M5510 M5553 M5563 M5584
2M5599 M55ab M55b3 M55c2 M5716 M5606 M5717 M5651 M5674 M5207 M58ee M57ce
M57f4 M580d M578b M5832 M5831 M58ac M214e4 M58f2 M58f7 M5906 M591a M5922
M5962 M216a8 M216ea M59ec M5a1b M5a27 M59d8 M5a66 M36ee M36fc M5b08 M5b3e
2M219c8 M5bc3 M5bd8 M5be7 M5bf3 M21b18 M5bff M5c06 M5f53 M5c22 M3781 M5c60
M5c6e M5cc0 M5c8d M21de4 M5d43 M21de6 M5d6e M5d6b M5d7c M5de1 M5de2 M382f
M5dfd M5e28 M5e3d M5e69 M3862 M22183 M387c M5eb0 M5eb3 M5eb6 M5eca M2a392
M5efe M22331 2M8201 M5f22 2M38c7 M232b8 M261da M5f62 M5f6b M38e3 M5f9a M5fcd
M5fd7 M5ff9 M6081 M393a M391c M6094 M226d4 M60c7 M6148 M614c M614e M614c
M617a M618e M61b2 M61a4 M61af M61de M61f2 M61f6 M6210 M621b M625d M62b1
M62d4 M6350 M22b0c M633d M62fc M6368 M6383 M63e4 M22bf1 M6422 M63c5 M63a9
M3a2e M6469 M647e M649d M6477 M3a6c M654f M656c M2300a M65e3 M66f8 M6649
M3b19 M6691 M3b08 M3ae4 M5192 M5195 M6700 M669c M80ad M43d9 M6717 M671b
M6721 M675e M6753 M233c3 M3b49 M67fa M6785 M6852 M6885 M2346d M688e M681f
M6914 M3b9d M6942 M69a3 M69ea M6aa8 M236a3 M6adb M3c18 M6b21 M238a7 M6b54
M3c4e M6b72 M6b9f M6bba M6bbb M23a8d M21d0b M23afa M6c4e M23cbc M6cbf M6ccd
M6c67 M6d16 M6d3e M6d77 M6d41 M6d69 M6d78 M6d85 M23d1e M6d34 M6e2f M6e6e
M3d33 M6ecb M6ec7 M23ed1 M6df9 M6f6e M23f5e M23f8e M6fc6 M7039 M701e M701b
M3d96 M704a M707d M7077 M70ad M20525 M7145 M24263 M719c M243ab M7228 M7235
M7250 M24608 M7280 M7295 M24735 M24814 M737a M738b M3eac M73a5 M3eb8 2M7447
M745c M7471 M7485 M74ca M3f1b M7524 M24c36 M753e M24c92 M7570 M2219f M7610
M24fa1 M24fb8 M25044 M3ffc M4008 M76f4 M250f3 M250f2 M25119 M25133 M771e
M771f 2M774a M4039 M778b M4046 M4096 M2541d M784e M788c M78cc M40e3 M25626
M7956 M2569a M256c5 M798f M79eb M412f M7a40 M7a4a M7a4f M2597c M25aa7 2M7aee
M4202 M25bab M7bc6 M7bc9 M4227 M25c80 M7cd2 M42a0 M7ce8 M7ce3 M7d00 M25f86
M7d63 M4301 M7dc7 M7e02 M7e45 M4334 M26228 M26247 M4359 M262d9 M7f7a M2633e
M7f95 M7ffa M8005 M264da M26523 M8060 M265a8 M8070 M2335f M43d5 M80b2 M8103
M440b M813e M5ab5 M267a7 M267b5 M23393 M2339c M8201 M8204 M8f9e M446b M8291
M828b M829d M52b3 M82b1 M82b3 M82bd M82e6 M26b3c M82e5 M831d M8363 M83ad
M8323 M83bd M83e7 M8457 M8353 M83ca M83cc M83dc M26c36 M26d6b M26cd5 M452b
M84f1 M84f3 M8516 M273ca M8564 M26f2c M455d M4561 M26fb1 M270d2 M456b M8650
M865c M8667 M8669 M86a9 M8688 M870e M86e2 M8779 M8728 M876b M8786 M45d7
M87e1 M8801 M45f9 M8860 M8863 M27667 M88d7 M88de M4635 M88fa M34bb M278ae
M27966 M46be M46c7 M8aa0 M8aed M8b8a M8c55 M27ca8 M8cab M8cc1 M8d1b M8d77
M27f2f M20804 M8dcb M8dbc M8df0 M208de M8ed4 M8f38 M285d2 M285ed M9094 M90f1
M9111 M2872e M911b M9238 M92d7 M92d8 M927c M93f9 M9415 M28bfa M958b M4995
M95b7 M28d77 M49e6 M96c3 M5db2 M9723 M29145 M2921a M4a6e M4a76 M97e0 M2940a
M4ab2 M29496 M980b 2M9829 M295b6 M98e2 M4b33 M9929 M99a7 M99c2 M99fe M4bce
M29b30 M9b12 M9c40 M9cfd M4cce M4ced M9d67 M2a0ce M4cf8 M2a105 M2a20e M2a291
M9ebb M4d56 M9ef9 M9efe M9f05 M9f0f M9f16 M9f3b M2a600 X 5e2V 134bX 5V 212aX
acc86I f0X
"

end Gatehouse.Url.Idna
