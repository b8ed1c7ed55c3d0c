/-!
# Character properties that host names depend on

Tables of the properties that normalisation and the rules for labels ask
for. Each row begins at a code point and holds up to the next row.
-/

namespace Gatehouse.Url.Idna

/-- The canonical combining class: `K` with the class, `N` for class zero. -/
def combiningRows : String := "
0N 300Ke6 15Ke8 Kdc 4Ke8 Kd8 Kdc 5Kca 2Kdc 4Kca 2Kdc bK1 5Kdc 4Ke6 8Kf0 Ke6
Kdc 3Ke6 3Kdc 2N Ke6 3Kdc 4Ke6 Ke8 Kdc 2Ke6 Ke9 Kea 2Ke9 Kea 2Ke9 Ke6 dN
113Ke6 5N 109Kdc Ke6 4Kdc Ke6 3Kde Kdc Ke6 6Kdc 6Ke6 2Kdc Ke6 2Kde Ke4 Ke6
Ka Kb Kc Kd Ke Kf K10 K11 K12 K13 2K14 K15 K16 N K17 N K18 K19 N Ke6 Kdc N
K12 N 48Ke6 8K1e K1f K20 N 30K1b K1c K1d K1e K1f K20 K21 K22 Ke6 2Kdc 2Ke6
5Kdc Ke6 2Kdc N 10K23 N 65Ke6 7N 2Ke6 4Kdc Ke6 N 2Ke6 2N Kdc Ke6 2Kdc N
23K24 N 1eKe6 Kdc Ke6 2Kdc Ke6 2Kdc 3Ke6 Kdc 2Ke6 Kdc Ke6 3Kdc Ke6 Kdc Ke6
Kdc Ke6 Kdc Ke6 2N a0Ke6 7Kdc Ke6 N 9Kdc N 18Ke6 4N Ke6 9N Ke6 3N Ke6 5N
2bKdc 3N 3cKe6 Kdc 3Ke6 4N 2aKe6 5Kdc 5Ke6 eN Kdc Ke6 2Kdc Ke6 2Kdc Ke6 3Kdc
3K1b K1c K1d Ke6 3Kdc Ke6 2Kdc 2Ke6 5N 3cK7 N 10K9 N 3Ke6 Kdc Ke6 2N 67K7 N
10K9 N 30Ke6 N 3dK7 N 10K9 N 6eK7 N 10K9 N 6eK7 N 10K9 N 7fK9 N 6eK7 N 10K9
N 7K54 K5b N 65K7 N 10K9 N 6dK9 2N 10K9 N 7cK9 N 6dK67 2K9 N dK6b 4N 6cK76
2K9 N dK7a 4N 4cKdc 2N 1bKdc N Kdc N Kd8 N 37K81 K82 N K84 N 5K82 4N 2K82 N
Ke6 2K9 N Ke6 2N 3eKdc N 70K7 N K9 2N 52Kdc N 2cfKe6 3N 3b4K9 2N 1eK9 N 9dK9
N aKe6 N cbKe4 N 8fKde Ke6 Kdc N dbKe6 Kdc N 47K9 N 14Ke6 8N 2Kdc N 30Ke6
5Kdc 6Ke6 2Kdc N Kdc 2Ke6 2Kdc 2Ke6 5Kdc Ke6 4N 65K7 N fK9 N 26Ke6 Kdc Ke6
7N 36K9 2N 3aK7 N bK9 2N 43K7 N 98Ke6 3N K1 Kdc 5Ke6 2Kdc 4Ke6 N K1 7N 4Kdc
N 6Ke6 N 3Ke6 2N c6Ke6 2Kdc Ke6 7Kdc Ke6 2Kea Kd6 Kdc Kca Ke6 25Ke8 Ke4 2Kdc
Kda Ke6 Ke9 Kdc Ke6 Kdc N 2d0Ke6 2K1 2Ke6 4K1 3Ke6 2N 4Ke6 N 3K1 2Ke6 Kdc
Ke6 K1 2Kdc 4Ke6 N bfeKe6 3N 8dK9 N 60Ke6 20N 22aKda Ke4 Ke8 Kde Ke0 2N 69K8
2N 75d4Ke6 N 4Ke6 aN 20Ke6 2N 50Ke6 2N 114K9 N 25K9 N 97K9 N 1bKe6 12N 39Kdc
3N 25K9 N 5fK7 N cK9 N efKe6 N Ke6 2Kdc N 2Ke6 2N 5Ke6 2N Ke6 N 34K9 N f6K9
N 4f30K1a N 301Ke6 7Kdc 7Ke6 2N 3cdKdc N e2Kdc N 95Ke6 5N 692Kdc N Ke6 N
28Ke6 K1 Kdc N 4K9 N a5Ke6 Kdc N 23dKe6 4N 183Ke6 2N 99Kdc 2Ke6 3Kdc Ke6 Kdc
4N 31Ke6 Kdc Ke6 Kdc N c0K9 N 29K9 N eK9 N 39K9 K7 N 45Ke6 3N 30K9 2N 3eK7 N
4cK9 N 9K7 N 6aK9 K7 N b2K7 K9 N 50K7 2N 10K9 N 18Ke6 7N 3Ke6 5N cdK9 N 3K7
N 17Ke6 N 63K9 K7 N fbK9 K7 N 7eK9 N 76K9 K7 N 73K9 N 10dK9 K7 N 102K9 2N
4K7 N 9cK9 N 53K9 N 12K9 N 51K9 N 1a5K9 N 102K7 N K9 2N 51K9 N 4d58K1 5N
3bKe6 7N 4b9K6 2N 4cacK1 N 14c6Kd8 2K1 3N 3Ke2 Kd8 5N 8Kdc 8N 2Ke6 5Kdc 2N
1eKe6 4N 94Ke6 3N dbbKe6 7N Ke6 11N 2Ke6 7N Ke6 2N Ke6 5N 105Ke6 7N 177Ke6 N
3dKe6 4N 5e0Kdc 7N 6dKe6 6K7 N
"

/-- The primary composites: `C` with the two characters that compose to it. -/
def compositeRows : String := "
0N c0C41.300 C41.301 C41.302 C41.303 C41.308 C41.30a N C43.327 C45.300
C45.301 C45.302 C45.308 C49.300 C49.301 C49.302 C49.308 N C4e.303 C4f.300
C4f.301 C4f.302 C4f.303 C4f.308 N 2C55.300 C55.301 C55.302 C55.308 C59.301 N
2C61.300 C61.301 C61.302 C61.303 C61.308 C61.30a N C63.327 C65.300 C65.301
C65.302 C65.308 C69.300 C69.301 C69.302 C69.308 N C6e.303 C6f.300 C6f.301
C6f.302 C6f.303 C6f.308 N 2C75.300 C75.301 C75.302 C75.308 C79.301 N C79.308
C41.304 C61.304 C41.306 C61.306 C41.328 C61.328 C43.301 C63.301 C43.302
C63.302 C43.307 C63.307 C43.30c C63.30c C44.30c C64.30c N 2C45.304 C65.304
C45.306 C65.306 C45.307 C65.307 C45.328 C65.328 C45.30c C65.30c C47.302
C67.302 C47.306 C67.306 C47.307 C67.307 C47.327 C67.327 C48.302 C68.302 N
2C49.303 C69.303 C49.304 C69.304 C49.306 C69.306 C49.328 C69.328 C49.307 N
3C4a.302 C6a.302 C4b.327 C6b.327 N C4c.301 C6c.301 C4c.327 C6c.327 C4c.30c
C6c.30c N 4C4e.301 C6e.301 C4e.327 C6e.327 C4e.30c C6e.30c N 3C4f.304
C6f.304 C4f.306 C6f.306 C4f.30b C6f.30b N 2C52.301 C72.301 C52.327 C72.327
C52.30c C72.30c C53.301 C73.301 C53.302 C73.302 C53.327 C73.327 C53.30c
C73.30c C54.327 C74.327 C54.30c C74.30c N 2C55.303 C75.303 C55.304 C75.304
C55.306 C75.306 C55.30a C75.30a C55.30b C75.30b C55.328 C75.328 C57.302
C77.302 C59.302 C79.302 C59.308 C5a.301 C7a.301 C5a.307 C7a.307 C5a.30c
C7a.30c N 21C4f.31b C6f.31b N dC55.31b C75.31b N 1cC41.30c C61.30c C49.30c
C69.30c C4f.30c C6f.30c C55.30c C75.30c Cdc.304 Cfc.304 Cdc.301 Cfc.301
Cdc.30c Cfc.30c Cdc.300 Cfc.300 N Cc4.304 Ce4.304 C226.304 C227.304 Cc6.304
Ce6.304 N 2C47.30c C67.30c C4b.30c C6b.30c C4f.328 C6f.328 C1ea.304 C1eb.304
C1b7.30c C292.30c C6a.30c N 3C47.301 C67.301 N 2C4e.300 C6e.300 Cc5.301
Ce5.301 Cc6.301 Ce6.301 Cd8.301 Cf8.301 C41.30f C61.30f C41.311 C61.311
C45.30f C65.30f C45.311 C65.311 C49.30f C69.30f C49.311 C69.311 C4f.30f
C6f.30f C4f.311 C6f.311 C52.30f C72.30f C52.311 C72.311 C55.30f C75.30f
C55.311 C75.311 C53.326 C73.326 C54.326 C74.326 N 2C48.30c C68.30c N
6C41.307 C61.307 C45.327 C65.327 Cd6.304 Cf6.304 Cd5.304 Cf5.304 C4f.307
C6f.307 C22e.304 C22f.304 C59.304 C79.304 N 151Ca8.301 C391.301 N C395.301
C397.301 C399.301 N C39f.301 N C3a5.301 C3a9.301 C3ca.301 N 19C399.308
C3a5.308 C3b1.301 C3b5.301 C3b7.301 C3b9.301 C3cb.301 N 19C3b9.308 C3c5.308
C3bf.301 C3c5.301 C3c9.301 N 4C3d2.301 C3d2.308 N 2bC415.300 C415.308 N
C413.301 N 3C406.308 N 4C41a.301 C418.300 C423.306 N aC418.306 N 1fC438.306
N 16C435.300 C435.308 N C433.301 N 3C456.308 N 4C43a.301 C438.300 C443.306 N
17C474.30f C475.30f N 49C416.306 C436.306 N dC410.306 C430.306 C410.308
C430.308 N 2C415.306 C435.306 N 2C4d8.308 C4d9.308 C416.308 C436.308
C417.308 C437.308 N 2C418.304 C438.304 C418.308 C438.308 C41e.308 C43e.308 N
2C4e8.308 C4e9.308 C42d.308 C44d.308 C423.304 C443.304 C423.308 C443.308
C423.30b C443.30b C427.308 C447.308 N 2C42b.308 C44b.308 N 128C627.653
C627.654 C648.654 C627.655 C64a.654 N 99C6d5.654 N C6c1.654 N 10C6d2.654 N
255C928.93c N 7C930.93c N 2C933.93c N 96C9c7.9be C9c7.9d7 N 17bCb47.b56 N
2Cb47.b3e Cb47.b57 N 47Cb92.bd7 N 35Cbc6.bbe Cbc7.bbe Cbc6.bd7 N 7bCc46.c56
N 77Ccbf.cd5 N 6Ccc6.cd5 Ccc6.cd6 N Ccc6.cc2 Ccca.cd5 N 7eCd46.d3e Cd47.d3e
Cd46.d57 N 8dCdd9.dca N Cdd9.dcf Cddc.dca Cdd9.ddf N 247C1025.102e N
adfC1b05.1b35 N C1b07.1b35 N C1b09.1b35 N C1b0b.1b35 N C1b0d.1b35 N
3C1b11.1b35 N 28C1b3a.1b35 N C1b3c.1b35 N 2C1b3e.1b35 C1b3f.1b35 N
C1b42.1b35 N 2bcC41.325 C61.325 C42.307 C62.307 C42.323 C62.323 C42.331
C62.331 Cc7.301 Ce7.301 C44.307 C64.307 C44.323 C64.323 C44.331 C64.331
C44.327 C64.327 C44.32d C64.32d C112.300 C113.300 C112.301 C113.301 C45.32d
C65.32d C45.330 C65.330 C228.306 C229.306 C46.307 C66.307 C47.304 C67.304
C48.307 C68.307 C48.323 C68.323 C48.308 C68.308 C48.327 C68.327 C48.32e
C68.32e C49.330 C69.330 Ccf.301 Cef.301 C4b.301 C6b.301 C4b.323 C6b.323
C4b.331 C6b.331 C4c.323 C6c.323 C1e36.304 C1e37.304 C4c.331 C6c.331 C4c.32d
C6c.32d C4d.301 C6d.301 C4d.307 C6d.307 C4d.323 C6d.323 C4e.307 C6e.307
C4e.323 C6e.323 C4e.331 C6e.331 C4e.32d C6e.32d Cd5.301 Cf5.301 Cd5.308
Cf5.308 C14c.300 C14d.300 C14c.301 C14d.301 C50.301 C70.301 C50.307 C70.307
C52.307 C72.307 C52.323 C72.323 C1e5a.304 C1e5b.304 C52.331 C72.331 C53.307
C73.307 C53.323 C73.323 C15a.307 C15b.307 C160.307 C161.307 C1e62.307
C1e63.307 C54.307 C74.307 C54.323 C74.323 C54.331 C74.331 C54.32d C74.32d
C55.324 C75.324 C55.330 C75.330 C55.32d C75.32d C168.301 C169.301 C16a.308
C16b.308 C56.303 C76.303 C56.323 C76.323 C57.300 C77.300 C57.301 C77.301
C57.308 C77.308 C57.307 C77.307 C57.323 C77.323 C58.307 C78.307 C58.308
C78.308 C59.307 C79.307 C5a.302 C7a.302 C5a.323 C7a.323 C5a.331 C7a.331
C68.331 C74.308 C77.30a C79.30a N C17f.307 N 4C41.323 C61.323 C41.309
C61.309 Cc2.301 Ce2.301 Cc2.300 Ce2.300 Cc2.309 Ce2.309 Cc2.303 Ce2.303
C1ea0.302 C1ea1.302 C102.301 C103.301 C102.300 C103.300 C102.309 C103.309
C102.303 C103.303 C1ea0.306 C1ea1.306 C45.323 C65.323 C45.309 C65.309
C45.303 C65.303 Cca.301 Cea.301 Cca.300 Cea.300 Cca.309 Cea.309 Cca.303
Cea.303 C1eb8.302 C1eb9.302 C49.309 C69.309 C49.323 C69.323 C4f.323 C6f.323
C4f.309 C6f.309 Cd4.301 Cf4.301 Cd4.300 Cf4.300 Cd4.309 Cf4.309 Cd4.303
Cf4.303 C1ecc.302 C1ecd.302 C1a0.301 C1a1.301 C1a0.300 C1a1.300 C1a0.309
C1a1.309 C1a0.303 C1a1.303 C1a0.323 C1a1.323 C55.323 C75.323 C55.309 C75.309
C1af.301 C1b0.301 C1af.300 C1b0.300 C1af.309 C1b0.309 C1af.303 C1b0.303
C1af.323 C1b0.323 C59.300 C79.300 C59.323 C79.323 C59.309 C79.309 C59.303
C79.303 N 6C3b1.313 C3b1.314 C1f00.300 C1f01.300 C1f00.301 C1f01.301
C1f00.342 C1f01.342 C391.313 C391.314 C1f08.300 C1f09.300 C1f08.301
C1f09.301 C1f08.342 C1f09.342 C3b5.313 C3b5.314 C1f10.300 C1f11.300
C1f10.301 C1f11.301 N 2C395.313 C395.314 C1f18.300 C1f19.300 C1f18.301
C1f19.301 N 2C3b7.313 C3b7.314 C1f20.300 C1f21.300 C1f20.301 C1f21.301
C1f20.342 C1f21.342 C397.313 C397.314 C1f28.300 C1f29.300 C1f28.301
C1f29.301 C1f28.342 C1f29.342 C3b9.313 C3b9.314 C1f30.300 C1f31.300
C1f30.301 C1f31.301 C1f30.342 C1f31.342 C399.313 C399.314 C1f38.300
C1f39.300 C1f38.301 C1f39.301 C1f38.342 C1f39.342 C3bf.313 C3bf.314
C1f40.300 C1f41.300 C1f40.301 C1f41.301 N 2C39f.313 C39f.314 C1f48.300
C1f49.300 C1f48.301 C1f49.301 N 2C3c5.313 C3c5.314 C1f50.300 C1f51.300
C1f50.301 C1f51.301 C1f50.342 C1f51.342 N C3a5.314 N C1f59.300 N C1f59.301 N
C1f59.342 C3c9.313 C3c9.314 C1f60.300 C1f61.300 C1f60.301 C1f61.301
C1f60.342 C1f61.342 C3a9.313 C3a9.314 C1f68.300 C1f69.300 C1f68.301
C1f69.301 C1f68.342 C1f69.342 C3b1.300 N C3b5.300 N C3b7.300 N C3b9.300 N
C3bf.300 N C3c5.300 N C3c9.300 N 3C1f00.345 C1f01.345 C1f02.345 C1f03.345
C1f04.345 C1f05.345 C1f06.345 C1f07.345 C1f08.345 C1f09.345 C1f0a.345
C1f0b.345 C1f0c.345 C1f0d.345 C1f0e.345 C1f0f.345 C1f20.345 C1f21.345
C1f22.345 C1f23.345 C1f24.345 C1f25.345 C1f26.345 C1f27.345 C1f28.345
C1f29.345 C1f2a.345 C1f2b.345 C1f2c.345 C1f2d.345 C1f2e.345 C1f2f.345
C1f60.345 C1f61.345 C1f62.345 C1f63.345 C1f64.345 C1f65.345 C1f66.345
C1f67.345 C1f68.345 C1f69.345 C1f6a.345 C1f6b.345 C1f6c.345 C1f6d.345
C1f6e.345 C1f6f.345 C3b1.306 C3b1.304 C1f70.345 C3b1.345 C3ac.345 N C3b1.342
C1fb6.345 C391.306 C391.304 C391.300 N C391.345 N 4Ca8.342 C1f74.345
C3b7.345 C3ae.345 N C3b7.342 C1fc6.345 C395.300 N C397.300 N C397.345
C1fbf.300 C1fbf.301 C1fbf.342 C3b9.306 C3b9.304 C3ca.300 N 3C3b9.342
C3ca.342 C399.306 C399.304 C399.300 N 2C1ffe.300 C1ffe.301 C1ffe.342
C3c5.306 C3c5.304 C3cb.300 N C3c1.313 C3c1.314 C3c5.342 C3cb.342 C3a5.306
C3a5.304 C3a5.300 N C3a1.314 Ca8.300 N 4C1f7c.345 C3c9.345 C3ce.345 N
C3c9.342 C1ff6.345 C39f.300 N C3a9.300 N C3a9.345 N 19dC2190.338 C2192.338 N
12C2194.338 N 1eC21d0.338 C21d4.338 C21d2.338 N 34C2203.338 N 4C2208.338 N
2C220b.338 N 17C2223.338 N C2225.338 N 1aC223c.338 N 2C2243.338 N 2C2245.338
N C2248.338 N 16C3d.338 N C2261.338 N aC224d.338 C3c.338 C3e.338 C2264.338
C2265.338 N 2C2272.338 C2273.338 N 2C2276.338 C2277.338 N 6C227a.338
C227b.338 N 2C2282.338 C2283.338 N 2C2286.338 C2287.338 N 22C22a2.338
C22a8.338 C22a9.338 C22ab.338 N 30C227c.338 C227d.338 C2291.338 C2292.338 N
6C22b2.338 C22b3.338 C22b4.338 C22b5.338 N d5eC304b.3099 N C304d.3099 N
C304f.3099 N C3051.3099 N C3053.3099 N C3055.3099 N C3057.3099 N C3059.3099
N C305b.3099 N C305d.3099 N C305f.3099 N C3061.3099 N 2C3064.3099 N
C3066.3099 N C3068.3099 N 6C306f.3099 C306f.309a N C3072.3099 C3072.309a N
C3075.3099 C3075.309a N C3078.3099 C3078.309a N C307b.3099 C307b.309a N
16C3046.3099 N 9C309d.3099 N dC30ab.3099 N C30ad.3099 N C30af.3099 N
C30b1.3099 N C30b3.3099 N C30b5.3099 N C30b7.3099 N C30b9.3099 N C30bb.3099
N C30bd.3099 N C30bf.3099 N C30c1.3099 N 2C30c4.3099 N C30c6.3099 N
C30c8.3099 N 6C30cf.3099 C30cf.309a N C30d2.3099 C30d2.309a N C30d5.3099
C30d5.309a N C30d8.3099 C30d8.309a N C30db.3099 C30db.309a N 16C30a6.3099 N
2C30ef.3099 C30f0.3099 C30f1.3099 C30f2.3099 N 3C30fd.3099 N
df9bC11099.110ba N C1109b.110ba N eC110a5.110ba N 82C11131.11127
C11132.11127 N 21bC11347.1133e C11347.11357 N 16eC114b9.114ba C114b9.114b0 N
C114b9.114bd N fbC115b8.115af C115b9.115af N 37cC11935.11930 N
"

/-- General category "mark": `M`, or `N` for all other characters. -/
def markRows : String := "
0N 300M 70N 113M 7N 107M 2dN M N M 2N M 2N M N 48M bN 30M 15N 10M N 65M 7N
2M 6N 2M 2N M 4N 23M N 1eM 1bN 5bM bN 3aM 9N 9M N 18M 4N M 9N M 3N M 5N 2bM
3N 3cM 8N 2aM 18N M 21N 36M 3N M 12N M 7N aM 2N 1dM 3N 38M N M 7N 2M 2N 2M
3N 9M N aM 2N 1aM N 2M 3N 38M N M 5N 4M 2N 2M 3N 3M N 1eM 2N 3M N bM 3N 38M
N M 8N M 3N M 3N 14M 2N 16M 6N M 3N 38M N M 7N 2M 2N 2M 3N 7M 3N aM 2N 1eM N
3bM 5N 3M 3N M 4N 9M N 28M 5N 37M N M 7N M 3N M 4N 7M 2N bM 2N 1dM 3N 38M N
M 7N M 3N M 4N 7M 2N bM 2N 1cM 4N 37M 2N M 7N M 3N M 4N 9M N aM 2N 1dM 3N
46M N 4M 6N M N M 8N 12M 2N 3dM N 2M 7N cM 8N 62M N 2M 9N bM 6N 4aM 2N 1bM N
M N M N 4M 2N 31M 14N M 2N 5M bN M 24N 9M N 64M 14N 17M 4N 4M 3N M 3N 2M 7N
3M 4N dM cN M N aM 4N 2bfM 3N 3b2M 4N 1cM 3N 1dM 2N 1eM 2N 40M 20N 9M N 2dM
3N M N 75M 2N 22M N 76M cN 4M cN dbM 5N 39M aN M 1dN 2M N 30M 1fN 31M 5N 2fM
11N 26M 9N cM 3N 1eM dN 38M eN 30M 14N 98M 3N M 15N 4M N 6M N 2M 3N c6M 40N
2d0M 21N bfeM 3N 8dM N 60M 20N 22aM 6N 69M 2N 75d4M 4N M aN 20M 2N 50M 2N
110M N 3M N 4M N 17M 5N 4M N 53M 2N 32M 12N 1aM 12N dM N 26M 8N 19M dN 2cM
4N 2fM eN 24M N 43M eN cM N 8M 2N 2dM 3N 32M N M 3N 2M 2N 5M 2N M N 29M 5N
5M 2N ecM 8N M 2N 4f30M N 2e1M 10N 10M 10N 3cdM N e2M N 95M 5N 686M 3N M 2N
5M 4N 28M 3N 4M N a5M 2N 23dM 4N 183M 2N 99M bN 31M 4N 7aM 3N 35M fN 29M N
2M 2N aM 4N 2dM bN 7M N 3dM 3N 24M eN 10M 2N 2cM N cM 3N 30M eN 8M 4N M 2N
5cM cN 6M N a0M cN 15M 4N 37M 2N M 7N 2M 2N 2M 3N 9M N aM 2N 2M 7N 3M 5N c0M
12N 17M N 51M 14N ebM 7N 2M 9N 1bM 2N 52M 11N 6aM dN 65M fN 100M fN f5M 6N M
2N 2M 4N M N M 2N 8dM 7N 2M 7N 3M N 1cM aN 28M 7N M 4N 8M N 9M bN 2eM 10N
195M 8N M 8N 52M 16N M eN 7aM 6N 3M N M 2N M 7N M N 42M 5N M 2N M 5N 15bM 4N
4bf9M 5N 3bM 7N 418M N M 37N 7M 4N 51M N bM 2N 4cabM 2N 1261M 2eN 2M 17N
21eM 5N 3M 6N 8M 8N 2M 7N 1eM 4N 94M 3N 7bbM 37N 4M 32N 8M N eM N 16M 5N M
fN 550M 7N M 11N 2M 7N M 2N M 5N 105M 7N 177M N 3dM 4N 5e0M 7N 6dM 7N c17b5M
f0N
"

/-- The bidirectional class, by one letter: `L`, `R`, `A` (Arabic letter), `N`
(Arabic number), `E`, `S`, `C`, `T` (European number, separator, common
separator, terminator), `O`, `B`, `M` (mark), and `X` for all others. -/
def bidiRows : String := "
0B 9X 5B eX 5O 2T 3O 5S C S C 2E aC O 6L 1aO 6L 1aO 4B 6X B 1aC O T 4O 4L O
2B O 2T 2E 2O L O 3E L O 5L 17O L 1fO L 1c1O 2L 7O eL 2O eL 5O 9L O 11M 70L
4O 2L 8O L 5O 2L O L 6eO L 8cM 7L 100O 5T 2M 2dR M R M 2R M 2R M 9R 30N 6O
2A T 2A C A O 2M bA 30M 15N aT N 2A 3M A 65M 7N O M 6A 2M 2O M 4A 2E aA 17M
A 1eM 1dA 59M bA fR 2bM 9R 2O 4R 3M R 18M 4R M 9R M 3R M 7R 29M 5R 2A 30N 8M
8A 2aM 18N M 20L 37M L M L 4M 8L 4M L 3M 7L aM 2L 1dM L 3aM L 4M 6L 6M L 14M
4L cT 2L 7T L 2M 5L 39M 2L 3M 18L 17M 2L 3M L bM 2L 39M L 4M 8L 4M 3L 12M 4L
bT 8L M 8L 3aM L 2M L M 6L 6M aL bM 4L 1cM L 3dM L cM 3L 23O 6T O 6M L 3M L
37M L M 3L 5M 12L aM 4L 12O 7L 2M L 3aM L fM 9L dM 4L 1aM 2L 39M 2L 4M 5L 7M
L 14M 4L 1bM L 48M 5L 3M 6L 59M L 2M bT L 7M 8L 62M L 2M 9L bM 8L 48M 2L 1bM
L M L M O 4L 33M eL M 5L M 2L 5M 31L 8M L 66M 4L M 6L M 2L 2M 2L 19M 2L 4M
3L 10M 4L dM L 2M 2L 6M L fM L 2bfM 3L 30O 10L 60O L 27fX L 1aO 5L 72M 3L
1dM 2L 1eM eL 12M eL 34M 2L M 7L 8M L 2M bL 7T L M 3L 10O 1bM 3B M L 75M 2L
22M L 76M 3L 4M 2L 9M L 6M 7O 6L 98O 22L 17M 2L 2M 3L 38M L M 9L M L 2M 8L
6M dL 30M 54L 30M L M 5L M L 5M L 28M 9L cM 2L 20M 4L 2M 2L M 3L 38M L M 2L
3M L M 3L 3aM 8L 2M 5L 95M 3L M dL M 7L 4M L 6M L 3M 2L c6M 40L 1bdO L O 3L
bO 3L dO 3L dO 5L bO 3X bB 3L R O 18X 7C T 5O fC O 1aX B 6X 4B 6E L 3E 6S 2O
3L E aS 2O 4L 10T 30M 30O 2L O 4L O 2L aO L O 3L 5O 6L O L O L O L 4T L bO
2L 4O 5L 5O 4L 2O 10L 29O 89S T O 122L 45O 1aL O f2E 14L 4eO 1c2L O 153L
100O 300L e5O 6L 4M 3L 7O 7L 7fM L 60M 20O 200X O 4L 3O 19L 9M 4L 2O L 5O 2L
5O 4L 58M 2O 2L 3O L 5aO L c4O 30L 2dO 3L 30O 10L 1cO 3L 32O fL cO 4L a7O 4L
63O 2L 1fO L 19c0O 40L 5690O 40L 13dO 3L 5fM 4O M aO 2L 1eM 2L 50M 2L eO 22L
66O L 79M L 3M L 4M L 19M 2L O 4M 4L 8T 8L 34O cL 44M aL 12M 12L dM L 26M 8L
19M bL 2eM 3L 30M L 2M 4L 2M 2L 27M L 43M 6L 2M 2L 2M bL 3M L 8M L 2fM L 33M
L M 3L 2M 2L 5M 2L M L 2aM 2L 8M bL 69O 6L 75M L 2M L 4M 3L 2c10X 800L 1b1dR
M R aS R 26A 1eeO 12A 7fO 21A dO 3M 10O 10M 10O 20C O C 2O C O 9T O 2S 2O 5T
2O 5A 8fB 2O 2T 3O 5S C S C 2E aC O 6L 1aO 6L 1aO bL 7aT 2O 3T 3O 18L 101O L
3eO 4dL 3O 40L 2dM 83L 60M E 1fL 76M aL 480R 11fO R e1M fR 28M 8R a5M 6R 4eO
7R 1c0A 24M cN 150R 2bM 2R 83A 16M bA 1fR 12M 4R 7aL M L 36M fL bO 14L aM L
2M 2L aM 3L 31M 4L 2M 2L 7M bL 33M 3L 24M 5L M 9L 3dM L cM 2L 34M 9L aM 4L
2M L 5fM 3L 2M L M 2L 6M 42L 5fM L 3M dL 10M 2L 39M 2L 3M L 25M 9aL 38M 8L
2M 3L M L 17M L 54M 6L M L 4M 2L M 2L eeM 6L 4M 2L M 2L 1bM 24L 33M 8L 2M L
M 2L 1fO 20L 2bM L M L 2M 6L M L 65M 3L 2M 4L M 9L ffM 9L M 2L 100M 2L M L
4M L 90M 8L 4M L 20M 6L 2M 2L 28M 6L 2M 4L 8M 9L M 6L 2M 3L 2eM dL M 2L 196M
eL 54M 17L M 7L M 2L M 4bL 31M 15L M 9L 40M 3L 2M L M L 15bM 2L e0O 8T 4O
1eL 4af1M 5L 3bM 7L 418M L 3fM 4L 4fO L M cL 4cadM 2L B 1260M 50L 217M 3L 9B
8M 8L 2M 7L 1eM 4L 3bO 59M 3O 9bL 20O 60L 37bO L 39O L 39O L 39O L 39O L aE
32L 200M 37L 4M 32L 8M L eM L 16M 465L 100M 100L 30M 7L 177M 12L 2cM 4L fT
4e1L 20R d0M 30R 44M 7R 326A 27fO 210E bO 5L 1fO L 3aO 6L 3dO 39L 7aO 990E
410L c0001B ffM ff00L
"

/-- The joining type, by its letter, `U` for characters that do not join. -/
def joiningRows : String := "
0U adT U 252T 70U 113T 7U 107T 2dU T U T 2U T 2U T U 48T bU T U 3D U R 4D R
D R D 5R 4D dC D 7R D 2T 15U eD 2T R 3U R 3D 10R 12D 26R D 2R 9D R D R D 2R
2U R T 7U 2T 6U 2T 2U T 4R 2U aD 3U 2D U fT R T D 3R 5D 4R D 9R D R D R D 2R
T 1bU 2R D bR 3D fR 2D 4R D R 2D 3R 2D 6U 26T bU 19D 21T 9U 6C U 2T U 18T 4U
T 9U T 3U T 5U 12R D 5R 2D R D aR D R 3T 3U 4D U D 4U R D R 2U 5R 13C 3D U
2D 5R D U 7T 9D aR 3U R D 2R 2D 6R D fU T 18U T 20U 37T U T U 4T 8U 4T U 3T
7U aT 2U 1dT U 3aT U 4T 4U 8T U 14T 2U 1aT U 2T 2U 39T U 4T 2U 4T 2U 2T 3U
3T U 1eT 2U 3T U bT 2U 39T U 4T 5U T 2U 4T U 14T 2U 16T 6U T U 3aT U 2T U T
4U 8T U 7T 2U bT 2U 1eT U 3dT U cT U 32T U 3T U 37T U T 3U 5T 3U T 4U 7T 2U
bT 2U 1dT U 3aT U 2T U 6T U 5T 2U 14T 2U 1cT 2U 39T 2U 4T 4U 8T U 14T 2U 1dT
U 48T U 7T 3U T U 5aT U 2T 7U cT 8U 62T U 2T 9U bT 7U 49T 2U 1bT U T U T U
37T eU T 5U T 2U 5T bU T 24U 9T U 66T 4U T 6U T 2U 2T 2U 19T 2U 4T 3U 10T 4U
dT U 2T 2U 6T U fT U 2bfT 3U 3b2T 3U 1dT 2U 1eT 2U 1eT 2U 40T 2U T 7U 8T U
2T bU 9T U 29D U 2C T 3U T U 10D 59U cT 2D 22T D U 75T 3U 4T 2U 9T U 6T 3U
dbT 2U 2T U 3aT U T 7U T U T U 2T 8U 6T aU 2T U 30T 2eU 2T cU 14T 4U 30T U T
5U T U 5T U 28T 9U cT 2U 20T 4U 2T 2U T 3U 38T U T 2U 3T U T 3U 3aT 8U 2T 2U
98T 3U T dU T 7U 4T U 6T U 3T 2U c6T 40U 20bT U C T 2U 1aT 5U 31T 5U 5T 6U
60T 21U bfeT 3U 8dT U 60T 20U 22aT 4U 6bT 2U 75d4T 4U T aU 20T 2U 50T 2U
110T U 3T U 4T U 19T 2U 5T U 13D 32L U 51T 2U 1aT 12U dT U 26T 8U 19T bU 2eT
3U 30T U 2T 4U 2T 2U 27T U 43T 6U 2T 2U 2T 2U cT U 8T U 2fT U 33T U T 3U 2T
2U 5T 2U T U 2aT 2U 8T U eeT U 2T U 4T U 4f30T U 2e1T 10U 10T 10U cfT U f9T
3U 201T U e2T U 95T 5U 686T 3U T 2U 5T 4U 28T 3U 4T U 80D 5R U R U R 2U 2L R
5D 4L D 5R D 3R U 2R T 2U 4D 4R U 90D R D R 3D 3R D 2R D R 2D R U 17R 4D 2U
151L D 21R D T 4U 41T 5U 13dT 2U 15R D 2U D 2U 32T 6U 30D 3R D 11U T bD 3R U
1bD 4R 2D cT 4U 2aD U D 2R 3U D R 2D 2R D 2U D R 2D U 4R D L U 35T U 36T fU
29T U 2T 2U aT 3U 31T 4U 2T 2U 7T U 3dT 3U 24T 5U T 8U 3eT U cT 2U 34T 9U aT
4U 2T U 5fT 3U 2T U T 2U 6T U 2T U 9dT U 3T 8U 15T 2U 39T 2U 3T U 25T 7U 3T
5U 46T 6U dT U T U T U eT 2U 55T 8U 2T 3U T U 17T U 54T 6U T U 4T 2U T 2U
eeT 4U 6T 2U T 2U 1bT 2U 55T 8U 2T U T 2U 6aT U T U 2T 6U T U 65T U T U 2T
4U T 5U 103T 9U T 2U 100T 2U T U 4T U 90T 4U 2T 2U 4T U 20T aU 28T 6U 2T 4U
8T U 9T 6U 2T 3U 2eT dU T 2U c6T U T 3U T U c9T 7U T 6U T U 52T 16U 2T 7U T
2U T 2U 7aT 6U 3T U T 2U T 7U T U 48T 2U 3T U T U 15bT 2U bT 2U 34T 5U 5T U
T U 17T U 14d5T 11U 6T fU 2cc8T cU 3T 3U 9c0T 5U 3bT 7U 418T U 3fT 4U 51T U
4cb8T 2U T 4U 125cT 2eU 2T 17U 220T 3U 9T 10U 2T 7U 1eT 4U 94T 3U 7bbT 37U
4T 32U 8T U eT U 16T 5U T fU 550T 7U T 11U 2T 7U T 2U T 5U 64T U a0T 7U 177T
U 3dT 4U 1fcT 4U feT 2U f3T U 2T U 7T 2U 5T U 1daT 7U 29D 44T 8U c16b5T U
1eT 60U 80T f0U
"

end Gatehouse.Url.Idna
