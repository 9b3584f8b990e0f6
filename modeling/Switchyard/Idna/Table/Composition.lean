/-
Characters that are the same as a sequence of one or two others.

Each entry is the distance from the character of the entry before, in hexadecimal, a letter and the
sequence.  `M` marks sequences that are put together again, `X` those that are not.  Hangul syllables
are computed instead.
-/
namespace Switchyard.Idna.Table

/-- Decompositions of characters other than Hangul syllables. -/
def composition : List String :=
  ["c0M41.300 1M41.301 1M41.302 1M41.303 1M41.308 1M41.30a 2M43.327 1M45.300 1M45.301 1M45.302",
   "1M45.308 1M49.300 1M49.301 1M49.302 1M49.308 2M4e.303 1M4f.300 1M4f.301 1M4f.302 1M4f.303",
   "1M4f.308 3M55.300 1M55.301 1M55.302 1M55.308 1M59.301 3M61.300 1M61.301 1M61.302 1M61.303",
   "1M61.308 1M61.30a 2M63.327 1M65.300 1M65.301 1M65.302 1M65.308 1M69.300 1M69.301 1M69.302",
   "1M69.308 2M6e.303 1M6f.300 1M6f.301 1M6f.302 1M6f.303 1M6f.308 3M75.300 1M75.301 1M75.302",
   "1M75.308 1M79.301 2M79.308 1M41.304 1M61.304 1M41.306 1M61.306 1M41.328 1M61.328 1M43.301",
   "1M63.301 1M43.302 1M63.302 1M43.307 1M63.307 1M43.30c 1M63.30c 1M44.30c 1M64.30c 3M45.304",
   "1M65.304 1M45.306 1M65.306 1M45.307 1M65.307 1M45.328 1M65.328 1M45.30c 1M65.30c 1M47.302",
   "1M67.302 1M47.306 1M67.306 1M47.307 1M67.307 1M47.327 1M67.327 1M48.302 1M68.302 3M49.303",
   "1M69.303 1M49.304 1M69.304 1M49.306 1M69.306 1M49.328 1M69.328 1M49.307 4M4a.302 1M6a.302",
   "1M4b.327 1M6b.327 2M4c.301 1M6c.301 1M4c.327 1M6c.327 1M4c.30c 1M6c.30c 5M4e.301 1M6e.301",
   "1M4e.327 1M6e.327 1M4e.30c 1M6e.30c 4M4f.304 1M6f.304 1M4f.306 1M6f.306 1M4f.30b 1M6f.30b",
   "3M52.301 1M72.301 1M52.327 1M72.327 1M52.30c 1M72.30c 1M53.301 1M73.301 1M53.302 1M73.302",
   "1M53.327 1M73.327 1M53.30c 1M73.30c 1M54.327 1M74.327 1M54.30c 1M74.30c 3M55.303 1M75.303",
   "1M55.304 1M75.304 1M55.306 1M75.306 1M55.30a 1M75.30a 1M55.30b 1M75.30b 1M55.328 1M75.328",
   "1M57.302 1M77.302 1M59.302 1M79.302 1M59.308 1M5a.301 1M7a.301 1M5a.307 1M7a.307 1M5a.30c",
   "1M7a.30c 22M4f.31b 1M6f.31b eM55.31b 1M75.31b 1dM41.30c 1M61.30c 1M49.30c 1M69.30c 1M4f.30c",
   "1M6f.30c 1M55.30c 1M75.30c 1Mdc.304 1Mfc.304 1Mdc.301 1Mfc.301 1Mdc.30c 1Mfc.30c 1Mdc.300",
   "1Mfc.300 2Mc4.304 1Me4.304 1M226.304 1M227.304 1Mc6.304 1Me6.304 3M47.30c 1M67.30c 1M4b.30c",
   "1M6b.30c 1M4f.328 1M6f.328 1M1ea.304 1M1eb.304 1M1b7.30c 1M292.30c 1M6a.30c 4M47.301 1M67.301",
   "3M4e.300 1M6e.300 1Mc5.301 1Me5.301 1Mc6.301 1Me6.301 1Md8.301 1Mf8.301 1M41.30f 1M61.30f",
   "1M41.311 1M61.311 1M45.30f 1M65.30f 1M45.311 1M65.311 1M49.30f 1M69.30f 1M49.311 1M69.311",
   "1M4f.30f 1M6f.30f 1M4f.311 1M6f.311 1M52.30f 1M72.30f 1M52.311 1M72.311 1M55.30f 1M75.30f",
   "1M55.311 1M75.311 1M53.326 1M73.326 1M54.326 1M74.326 3M48.30c 1M68.30c 7M41.307 1M61.307",
   "1M45.327 1M65.327 1Md6.304 1Mf6.304 1Md5.304 1Mf5.304 1M4f.307 1M6f.307 1M22e.304 1M22f.304",
   "1M59.304 1M79.304 10dX300 1X301 2X313 1X308.301 30X2b9 aX3b 7Ma8.301 1M391.301 1Xb7 1M395.301",
   "1M397.301 1M399.301 2M39f.301 2M3a5.301 1M3a9.301 1M3ca.301 1aM399.308 1M3a5.308 1M3b1.301",
   "1M3b5.301 1M3b7.301 1M3b9.301 1M3cb.301 1aM3b9.308 1M3c5.308 1M3bf.301 1M3c5.301 1M3c9.301",
   "5M3d2.301 1M3d2.308 2cM415.300 1M415.308 2M413.301 4M406.308 5M41a.301 1M418.300 1M423.306",
   "bM418.306 20M438.306 17M435.300 1M435.308 2M433.301 4M456.308 5M43a.301 1M438.300 1M443.306",
   "18M474.30f 1M475.30f 4aM416.306 1M436.306 eM410.306 1M430.306 1M410.308 1M430.308 3M415.306",
   "1M435.306 3M4d8.308 1M4d9.308 1M416.308 1M436.308 1M417.308 1M437.308 3M418.304 1M438.304",
   "1M418.308 1M438.308 1M41e.308 1M43e.308 3M4e8.308 1M4e9.308 1M42d.308 1M44d.308 1M423.304",
   "1M443.304 1M423.308 1M443.308 1M423.30b 1M443.30b 1M427.308 1M447.308 3M42b.308 1M44b.308",
   "129M627.653 1M627.654 1M648.654 1M627.655 1M64a.654 9aM6d5.654 2M6c1.654 11M6d2.654",
   "256M928.93c 8M930.93c 3M933.93c 24X915.93c 1X916.93c 1X917.93c 1X91c.93c 1X921.93c 1X922.93c",
   "1X92b.93c 1X92f.93c 6cM9c7.9be 1M9c7.9d7 10X9a1.9bc 1X9a2.9bc 2X9af.9bc 54Xa32.a3c 3Xa38.a3c",
   "23Xa16.a3c 1Xa17.a3c 1Xa1c.a3c 3Xa2b.a3c eaMb47.b56 3Mb47.b3e 1Mb47.b57 10Xb21.b3c 1Xb22.b3c",
   "37Mb92.bd7 36Mbc6.bbe 1Mbc7.bbe 1Mbc6.bd7 7cMc46.c56 78Mcbf.cd5 7Mcc6.cd5 1Mcc6.cd6 2Mcc6.cc2",
   "1Mcca.cd5 7fMd46.d3e 1Md47.d3e 1Md46.d57 8eMdd9.dca 2Mdd9.dcf 1Mddc.dca 1Mdd9.ddf 165Xf42.fb7",
   "aXf4c.fb7 5Xf51.fb7 5Xf56.fb7 5Xf5b.fb7 dXf40.fb5 aXf71.f72 2Xf71.f74 1Xfb2.f80 2Xfb3.f80",
   "9Xf71.f80 12Xf92.fb7 aXf9c.fb7 5Xfa1.fb7 5Xfa6.fb7 5Xfab.fb7 dXf90.fb5 6dM1025.102e",
   "ae0M1b05.1b35 2M1b07.1b35 2M1b09.1b35 2M1b0b.1b35 2M1b0d.1b35 4M1b11.1b35 29M1b3a.1b35",
   "2M1b3c.1b35 3M1b3e.1b35 1M1b3f.1b35 2M1b42.1b35 2bdM41.325 1M61.325 1M42.307 1M62.307",
   "1M42.323 1M62.323 1M42.331 1M62.331 1Mc7.301 1Me7.301 1M44.307 1M64.307 1M44.323 1M64.323",
   "1M44.331 1M64.331 1M44.327 1M64.327 1M44.32d 1M64.32d 1M112.300 1M113.300 1M112.301 1M113.301",
   "1M45.32d 1M65.32d 1M45.330 1M65.330 1M228.306 1M229.306 1M46.307 1M66.307 1M47.304 1M67.304",
   "1M48.307 1M68.307 1M48.323 1M68.323 1M48.308 1M68.308 1M48.327 1M68.327 1M48.32e 1M68.32e",
   "1M49.330 1M69.330 1Mcf.301 1Mef.301 1M4b.301 1M6b.301 1M4b.323 1M6b.323 1M4b.331 1M6b.331",
   "1M4c.323 1M6c.323 1M1e36.304 1M1e37.304 1M4c.331 1M6c.331 1M4c.32d 1M6c.32d 1M4d.301 1M6d.301",
   "1M4d.307 1M6d.307 1M4d.323 1M6d.323 1M4e.307 1M6e.307 1M4e.323 1M6e.323 1M4e.331 1M6e.331",
   "1M4e.32d 1M6e.32d 1Md5.301 1Mf5.301 1Md5.308 1Mf5.308 1M14c.300 1M14d.300 1M14c.301 1M14d.301",
   "1M50.301 1M70.301 1M50.307 1M70.307 1M52.307 1M72.307 1M52.323 1M72.323 1M1e5a.304 1M1e5b.304",
   "1M52.331 1M72.331 1M53.307 1M73.307 1M53.323 1M73.323 1M15a.307 1M15b.307 1M160.307 1M161.307",
   "1M1e62.307 1M1e63.307 1M54.307 1M74.307 1M54.323 1M74.323 1M54.331 1M74.331 1M54.32d 1M74.32d",
   "1M55.324 1M75.324 1M55.330 1M75.330 1M55.32d 1M75.32d 1M168.301 1M169.301 1M16a.308 1M16b.308",
   "1M56.303 1M76.303 1M56.323 1M76.323 1M57.300 1M77.300 1M57.301 1M77.301 1M57.308 1M77.308",
   "1M57.307 1M77.307 1M57.323 1M77.323 1M58.307 1M78.307 1M58.308 1M78.308 1M59.307 1M79.307",
   "1M5a.302 1M7a.302 1M5a.323 1M7a.323 1M5a.331 1M7a.331 1M68.331 1M74.308 1M77.30a 1M79.30a",
   "2M17f.307 5M41.323 1M61.323 1M41.309 1M61.309 1Mc2.301 1Me2.301 1Mc2.300 1Me2.300 1Mc2.309",
   "1Me2.309 1Mc2.303 1Me2.303 1M1ea0.302 1M1ea1.302 1M102.301 1M103.301 1M102.300 1M103.300",
   "1M102.309 1M103.309 1M102.303 1M103.303 1M1ea0.306 1M1ea1.306 1M45.323 1M65.323 1M45.309",
   "1M65.309 1M45.303 1M65.303 1Mca.301 1Mea.301 1Mca.300 1Mea.300 1Mca.309 1Mea.309 1Mca.303",
   "1Mea.303 1M1eb8.302 1M1eb9.302 1M49.309 1M69.309 1M49.323 1M69.323 1M4f.323 1M6f.323 1M4f.309",
   "1M6f.309 1Md4.301 1Mf4.301 1Md4.300 1Mf4.300 1Md4.309 1Mf4.309 1Md4.303 1Mf4.303 1M1ecc.302",
   "1M1ecd.302 1M1a0.301 1M1a1.301 1M1a0.300 1M1a1.300 1M1a0.309 1M1a1.309 1M1a0.303 1M1a1.303",
   "1M1a0.323 1M1a1.323 1M55.323 1M75.323 1M55.309 1M75.309 1M1af.301 1M1b0.301 1M1af.300",
   "1M1b0.300 1M1af.309 1M1b0.309 1M1af.303 1M1b0.303 1M1af.323 1M1b0.323 1M59.300 1M79.300",
   "1M59.323 1M79.323 1M59.309 1M79.309 1M59.303 1M79.303 7M3b1.313 1M3b1.314 1M1f00.300",
   "1M1f01.300 1M1f00.301 1M1f01.301 1M1f00.342 1M1f01.342 1M391.313 1M391.314 1M1f08.300",
   "1M1f09.300 1M1f08.301 1M1f09.301 1M1f08.342 1M1f09.342 1M3b5.313 1M3b5.314 1M1f10.300",
   "1M1f11.300 1M1f10.301 1M1f11.301 3M395.313 1M395.314 1M1f18.300 1M1f19.300 1M1f18.301",
   "1M1f19.301 3M3b7.313 1M3b7.314 1M1f20.300 1M1f21.300 1M1f20.301 1M1f21.301 1M1f20.342",
   "1M1f21.342 1M397.313 1M397.314 1M1f28.300 1M1f29.300 1M1f28.301 1M1f29.301 1M1f28.342",
   "1M1f29.342 1M3b9.313 1M3b9.314 1M1f30.300 1M1f31.300 1M1f30.301 1M1f31.301 1M1f30.342",
   "1M1f31.342 1M399.313 1M399.314 1M1f38.300 1M1f39.300 1M1f38.301 1M1f39.301 1M1f38.342",
   "1M1f39.342 1M3bf.313 1M3bf.314 1M1f40.300 1M1f41.300 1M1f40.301 1M1f41.301 3M39f.313",
   "1M39f.314 1M1f48.300 1M1f49.300 1M1f48.301 1M1f49.301 3M3c5.313 1M3c5.314 1M1f50.300",
   "1M1f51.300 1M1f50.301 1M1f51.301 1M1f50.342 1M1f51.342 2M3a5.314 2M1f59.300 2M1f59.301",
   "2M1f59.342 1M3c9.313 1M3c9.314 1M1f60.300 1M1f61.300 1M1f60.301 1M1f61.301 1M1f60.342",
   "1M1f61.342 1M3a9.313 1M3a9.314 1M1f68.300 1M1f69.300 1M1f68.301 1M1f69.301 1M1f68.342",
   "1M1f69.342 1M3b1.300 1X3ac 1M3b5.300 1X3ad 1M3b7.300 1X3ae 1M3b9.300 1X3af 1M3bf.300 1X3cc",
   "1M3c5.300 1X3cd 1M3c9.300 1X3ce 3M1f00.345 1M1f01.345 1M1f02.345 1M1f03.345 1M1f04.345",
   "1M1f05.345 1M1f06.345 1M1f07.345 1M1f08.345 1M1f09.345 1M1f0a.345 1M1f0b.345 1M1f0c.345",
   "1M1f0d.345 1M1f0e.345 1M1f0f.345 1M1f20.345 1M1f21.345 1M1f22.345 1M1f23.345 1M1f24.345",
   "1M1f25.345 1M1f26.345 1M1f27.345 1M1f28.345 1M1f29.345 1M1f2a.345 1M1f2b.345 1M1f2c.345",
   "1M1f2d.345 1M1f2e.345 1M1f2f.345 1M1f60.345 1M1f61.345 1M1f62.345 1M1f63.345 1M1f64.345",
   "1M1f65.345 1M1f66.345 1M1f67.345 1M1f68.345 1M1f69.345 1M1f6a.345 1M1f6b.345 1M1f6c.345",
   "1M1f6d.345 1M1f6e.345 1M1f6f.345 1M3b1.306 1M3b1.304 1M1f70.345 1M3b1.345 1M3ac.345 2M3b1.342",
   "1M1fb6.345 1M391.306 1M391.304 1M391.300 1X386 1M391.345 2X3b9 3Ma8.342 1M1f74.345 1M3b7.345",
   "1M3ae.345 2M3b7.342 1M1fc6.345 1M395.300 1X388 1M397.300 1X389 1M397.345 1M1fbf.300",
   "1M1fbf.301 1M1fbf.342 1M3b9.306 1M3b9.304 1M3ca.300 1X390 3M3b9.342 1M3ca.342 1M399.306",
   "1M399.304 1M399.300 1X38a 2M1ffe.300 1M1ffe.301 1M1ffe.342 1M3c5.306 1M3c5.304 1M3cb.300",
   "1X3b0 1M3c1.313 1M3c1.314 1M3c5.342 1M3cb.342 1M3a5.306 1M3a5.304 1M3a5.300 1X38e 1M3a1.314",
   "1Ma8.300 1X385 1X60 3M1f7c.345 1M3c9.345 1M3ce.345 2M3c9.342 1M1ff6.345 1M39f.300 1X38c",
   "1M3a9.300 1X38f 1M3a9.345 1Xb4 3X2002 1X2003 125X3a9 4X4b 1Xc5 6fM2190.338 1M2192.338",
   "13M2194.338 1fM21d0.338 1M21d4.338 1M21d2.338 35M2203.338 5M2208.338 3M220b.338 18M2223.338",
   "2M2225.338 1bM223c.338 3M2243.338 3M2245.338 2M2248.338 17M3d.338 2M2261.338 bM224d.338",
   "1M3c.338 1M3e.338 1M2264.338 1M2265.338 3M2272.338 1M2273.338 3M2276.338 1M2277.338",
   "7M227a.338 1M227b.338 3M2282.338 1M2283.338 3M2286.338 1M2287.338 23M22a2.338 1M22a8.338",
   "1M22a9.338 1M22ab.338 31M227c.338 1M227d.338 1M2291.338 1M2292.338 7M22b2.338 1M22b3.338",
   "1M22b4.338 1M22b5.338 3cX3008 1X3009 7b2X2add.338 570M304b.3099 2M304d.3099 2M304f.3099",
   "2M3051.3099 2M3053.3099 2M3055.3099 2M3057.3099 2M3059.3099 2M305b.3099 2M305d.3099",
   "2M305f.3099 2M3061.3099 3M3064.3099 2M3066.3099 2M3068.3099 7M306f.3099 1M306f.309a",
   "2M3072.3099 1M3072.309a 2M3075.3099 1M3075.309a 2M3078.3099 1M3078.309a 2M307b.3099",
   "1M307b.309a 17M3046.3099 aM309d.3099 eM30ab.3099 2M30ad.3099 2M30af.3099 2M30b1.3099",
   "2M30b3.3099 2M30b5.3099 2M30b7.3099 2M30b9.3099 2M30bb.3099 2M30bd.3099 2M30bf.3099",
   "2M30c1.3099 3M30c4.3099 2M30c6.3099 2M30c8.3099 7M30cf.3099 1M30cf.309a 2M30d2.3099",
   "1M30d2.309a 2M30d5.3099 1M30d5.309a 2M30d8.3099 1M30d8.309a 2M30db.3099 1M30db.309a",
   "17M30a6.3099 3M30ef.3099 1M30f0.3099 1M30f1.3099 1M30f2.3099 4M30fd.3099 c802X8c48 1X66f4",
   "1X8eca 1X8cc8 1X6ed1 1X4e32 1X53e5 1X9f9c 1X9f9c 1X5951 1X91d1 1X5587 1X5948 1X61f6 1X7669",
   "1X7f85 1X863f 1X87ba 1X88f8 1X908f 1X6a02 1X6d1b 1X70d9 1X73de 1X843d 1X916a 1X99f1 1X4e82",
   "1X5375 1X6b04 1X721b 1X862d 1X9e1e 1X5d50 1X6feb 1X85cd 1X8964 1X62c9 1X81d8 1X881f 1X5eca",
   "1X6717 1X6d6a 1X72fc 1X90ce 1X4f86 1X51b7 1X52de 1X64c4 1X6ad3 1X7210 1X76e7 1X8001 1X8606",
   "1X865c 1X8def 1X9732 1X9b6f 1X9dfa 1X788c 1X797f 1X7da0 1X83c9 1X9304 1X9e7f 1X8ad6 1X58df",
   "1X5f04 1X7c60 1X807e 1X7262 1X78ca 1X8cc2 1X96f7 1X58d8 1X5c62 1X6a13 1X6dda 1X6f0f 1X7d2f",
   "1X7e37 1X964b 1X52d2 1X808b 1X51dc 1X51cc 1X7a1c 1X7dbe 1X83f1 1X9675 1X8b80 1X62cf 1X6a02",
   "1X8afe 1X4e39 1X5be7 1X6012 1X7387 1X7570 1X5317 1X78fb 1X4fbf 1X5fa9 1X4e0d 1X6ccc 1X6578",
   "1X7d22 1X53c3 1X585e 1X7701 1X8449 1X8aaa 1X6bba 1X8fb0 1X6c88 1X62fe 1X82e5 1X63a0 1X7565",
   "1X4eae 1X5169 1X51c9 1X6881 1X7ce7 1X826f 1X8ad2 1X91cf 1X52f5 1X5442 1X5973 1X5eec 1X65c5",
   "1X6ffe 1X792a 1X95ad 1X9a6a 1X9e97 1X9ece 1X529b 1X66c6 1X6b77 1X8f62 1X5e74 1X6190 1X6200",
   "1X649a 1X6f23 1X7149 1X7489 1X79ca 1X7df4 1X806f 1X8f26 1X84ee 1X9023 1X934a 1X5217 1X52a3",
   "1X54bd 1X70c8 1X88c2 1X8aaa 1X5ec9 1X5ff5 1X637b 1X6bae 1X7c3e 1X7375 1X4ee4 1X56f9 1X5be7",
   "1X5dba 1X601c 1X73b2 1X7469 1X7f9a 1X8046 1X9234 1X96f6 1X9748 1X9818 1X4f8b 1X79ae 1X91b4",
   "1X96b8 1X60e1 1X4e86 1X50da 1X5bee 1X5c3f 1X6599 1X6a02 1X71ce 1X7642 1X84fc 1X907c 1X9f8d",
   "1X6688 1X962e 1X5289 1X677b 1X67f3 1X6d41 1X6e9c 1X7409 1X7559 1X786b 1X7d10 1X985e 1X516d",
   "1X622e 1X9678 1X502b 1X5d19 1X6dea 1X8f2a 1X5f8b 1X6144 1X6817 1X7387 1X9686 1X5229 1X540f",
   "1X5c65 1X6613 1X674e 1X68a8 1X6ce5 1X7406 1X75e2 1X7f79 1X88cf 1X88e1 1X91cc 1X96e2 1X533f",
   "1X6eba 1X541d 1X71d0 1X7498 1X85fa 1X96a3 1X9c57 1X9e9f 1X6797 1X6dcb 1X81e8 1X7acb 1X7b20",
   "1X7c92 1X72c0 1X7099 1X8b58 1X4ec0 1X8336 1X523a 1X5207 1X5ea6 1X62d3 1X7cd6 1X5b85 1X6d1e",
   "1X66b4 1X8f3b 1X884c 1X964d 1X898b 1X5ed3 1X5140 1X55c0 3X585a 2X6674 3X51de 1X732a 1X76ca",
   "1X793c 1X795e 1X7965 1X798f 1X9756 1X7cbe 1X7fbd 2X8612 2X8af8 3X9038 1X90fd 4X98ef 1X98fc",
   "1X9928 1X9db4 1X90de 1X96b7 1X4fae 1X50e7 1X514d 1X52c9 1X52e4 1X5351 1X559d 1X5606 1X5668",
   "1X5840 1X58a8 1X5c64 1X5c6e 1X6094 1X6168 1X618e 1X61f2 1X654f 1X65e2 1X6691 1X6885 1X6d77",
   "1X6e1a 1X6f22 1X716e 1X722b 1X7422 1X7891 1X793e 1X7949 1X7948 1X7950 1X7956 1X795d 1X798d",
   "1X798e 1X7a40 1X7a81 1X7bc0 1X7df4 1X7e09 1X7e41 1X7f72 1X8005 1X81ed 1X8279 1X8279 1X8457",
   "1X8910 1X8996 1X8b01 1X8b39 1X8cd3 1X8d08 1X8fb6 1X9038 1X96e3 1X97ff 1X983b 1X6075 1X242ee",
   "1X8218 3X4e26 1X51b5 1X5168 1X4f80 1X5145 1X5180 1X52c7 1X52fa 1X559d 1X5555 1X5599 1X55e2",
   "1X585a 1X58b3 1X5944 1X5954 1X5a62 1X5b28 1X5ed2 1X5ed9 1X5f69 1X5fad 1X60d8 1X614e 1X6108",
   "1X618e 1X6160 1X61f2 1X6234 1X63c4 1X641c 1X6452 1X6556 1X6674 1X6717 1X671b 1X6756 1X6b79",
   "1X6bba 1X6d41 1X6edb 1X6ecb 1X6f22 1X701e 1X716e 1X77a7 1X7235 1X72af 1X732a 1X7471 1X7506",
   "1X753b 1X761d 1X761f 1X76ca 1X76db 1X76f4 1X774a 1X7740 1X78cc 1X7ab1 1X7bc0 1X7c7b 1X7d5b",
   "1X7df4 1X7f3e 1X8005 1X8352 1X83ef 1X8779 1X8941 1X8986 1X8996 1X8abf 1X8af8 1X8acb 1X8b01",
   "1X8afe 1X8aed 1X8b39 1X8b8a 1X8d08 1X8f38 1X9072 1X9199 1X9276 1X967c 1X96e3 1X9756 1X97db",
   "1X97ff 1X980b 1X983b 1X9b12 1X9f9c 1X2284a 1X22844 1X233d5 1X3b9d 1X4018 1X4039 1X25249",
   "1X25cd0 1X27ed3 1X9f43 1X9f8e 44X5d9.5b4 2X5f2.5b7 bX5e9.5c1 1X5e9.5c2 1Xfb49.5c1 1Xfb49.5c2",
   "1X5d0.5b7 1X5d0.5b8 1X5d0.5bc 1X5d1.5bc 1X5d2.5bc 1X5d3.5bc 1X5d4.5bc 1X5d5.5bc 1X5d6.5bc",
   "2X5d8.5bc 1X5d9.5bc 1X5da.5bc 1X5db.5bc 1X5dc.5bc 2X5de.5bc 2X5e0.5bc 1X5e1.5bc 2X5e3.5bc",
   "1X5e4.5bc 2X5e6.5bc 1X5e7.5bc 1X5e8.5bc 1X5e9.5bc 1X5ea.5bc 1X5d5.5b9 1X5d1.5bf 1X5db.5bf",
   "1X5e4.5bf 154cM11099.110ba 2M1109b.110ba fM110a5.110ba 83M11131.11127 1M11132.11127",
   "21cM11347.1133e 1M11347.11357 16fM114b9.114ba 1M114b9.114b0 2M114b9.114bd fcM115b8.115af",
   "1M115b9.115af 37dM11935.11930 b826X1d157.1d165 1X1d158.1d165 1X1d15f.1d16e 1X1d15f.1d16f",
   "1X1d15f.1d170 1X1d15f.1d171 1X1d15f.1d172 57X1d1b9.1d165 1X1d1ba.1d165 1X1d1bb.1d16e",
   "1X1d1bc.1d16e 1X1d1bb.1d16f 1X1d1bc.1d16f 12640X4e3d 1X4e38 1X4e41 1X20122 1X4f60 1X4fae",
   "1X4fbb 1X5002 1X507a 1X5099 1X50e7 1X50cf 1X349e 1X2063a 1X514d 1X5154 1X5164 1X5177 1X2051c",
   "1X34b9 1X5167 1X518d 1X2054b 1X5197 1X51a4 1X4ecc 1X51ac 1X51b5 1X291df 1X51f5 1X5203 1X34df",
   "1X523b 1X5246 1X5272 1X5277 1X3515 1X52c7 1X52c9 1X52e4 1X52fa 1X5305 1X5306 1X5317 1X5349",
   "1X5351 1X535a 1X5373 1X537d 1X537f 1X537f 1X537f 1X20a2c 1X7070 1X53ca 1X53df 1X20b63 1X53eb",
   "1X53f1 1X5406 1X549e 1X5438 1X5448 1X5468 1X54a2 1X54f6 1X5510 1X5553 1X5563 1X5584 1X5584",
   "1X5599 1X55ab 1X55b3 1X55c2 1X5716 1X5606 1X5717 1X5651 1X5674 1X5207 1X58ee 1X57ce 1X57f4",
   "1X580d 1X578b 1X5832 1X5831 1X58ac 1X214e4 1X58f2 1X58f7 1X5906 1X591a 1X5922 1X5962 1X216a8",
   "1X216ea 1X59ec 1X5a1b 1X5a27 1X59d8 1X5a66 1X36ee 1X36fc 1X5b08 1X5b3e 1X5b3e 1X219c8 1X5bc3",
   "1X5bd8 1X5be7 1X5bf3 1X21b18 1X5bff 1X5c06 1X5f53 1X5c22 1X3781 1X5c60 1X5c6e 1X5cc0 1X5c8d",
   "1X21de4 1X5d43 1X21de6 1X5d6e 1X5d6b 1X5d7c 1X5de1 1X5de2 1X382f 1X5dfd 1X5e28 1X5e3d 1X5e69",
   "1X3862 1X22183 1X387c 1X5eb0 1X5eb3 1X5eb6 1X5eca 1X2a392 1X5efe 1X22331 1X22331 1X8201",
   "1X5f22 1X5f22 1X38c7 1X232b8 1X261da 1X5f62 1X5f6b 1X38e3 1X5f9a 1X5fcd 1X5fd7 1X5ff9 1X6081",
   "1X393a 1X391c 1X6094 1X226d4 1X60c7 1X6148 1X614c 1X614e 1X614c 1X617a 1X618e 1X61b2 1X61a4",
   "1X61af 1X61de 1X61f2 1X61f6 1X6210 1X621b 1X625d 1X62b1 1X62d4 1X6350 1X22b0c 1X633d 1X62fc",
   "1X6368 1X6383 1X63e4 1X22bf1 1X6422 1X63c5 1X63a9 1X3a2e 1X6469 1X647e 1X649d 1X6477 1X3a6c",
   "1X654f 1X656c 1X2300a 1X65e3 1X66f8 1X6649 1X3b19 1X6691 1X3b08 1X3ae4 1X5192 1X5195 1X6700",
   "1X669c 1X80ad 1X43d9 1X6717 1X671b 1X6721 1X675e 1X6753 1X233c3 1X3b49 1X67fa 1X6785 1X6852",
   "1X6885 1X2346d 1X688e 1X681f 1X6914 1X3b9d 1X6942 1X69a3 1X69ea 1X6aa8 1X236a3 1X6adb 1X3c18",
   "1X6b21 1X238a7 1X6b54 1X3c4e 1X6b72 1X6b9f 1X6bba 1X6bbb 1X23a8d 1X21d0b 1X23afa 1X6c4e",
   "1X23cbc 1X6cbf 1X6ccd 1X6c67 1X6d16 1X6d3e 1X6d77 1X6d41 1X6d69 1X6d78 1X6d85 1X23d1e 1X6d34",
   "1X6e2f 1X6e6e 1X3d33 1X6ecb 1X6ec7 1X23ed1 1X6df9 1X6f6e 1X23f5e 1X23f8e 1X6fc6 1X7039 1X701e",
   "1X701b 1X3d96 1X704a 1X707d 1X7077 1X70ad 1X20525 1X7145 1X24263 1X719c 1X243ab 1X7228 1X7235",
   "1X7250 1X24608 1X7280 1X7295 1X24735 1X24814 1X737a 1X738b 1X3eac 1X73a5 1X3eb8 1X3eb8 1X7447",
   "1X745c 1X7471 1X7485 1X74ca 1X3f1b 1X7524 1X24c36 1X753e 1X24c92 1X7570 1X2219f 1X7610",
   "1X24fa1 1X24fb8 1X25044 1X3ffc 1X4008 1X76f4 1X250f3 1X250f2 1X25119 1X25133 1X771e 1X771f",
   "1X771f 1X774a 1X4039 1X778b 1X4046 1X4096 1X2541d 1X784e 1X788c 1X78cc 1X40e3 1X25626 1X7956",
   "1X2569a 1X256c5 1X798f 1X79eb 1X412f 1X7a40 1X7a4a 1X7a4f 1X2597c 1X25aa7 1X25aa7 1X7aee",
   "1X4202 1X25bab 1X7bc6 1X7bc9 1X4227 1X25c80 1X7cd2 1X42a0 1X7ce8 1X7ce3 1X7d00 1X25f86 1X7d63",
   "1X4301 1X7dc7 1X7e02 1X7e45 1X4334 1X26228 1X26247 1X4359 1X262d9 1X7f7a 1X2633e 1X7f95",
   "1X7ffa 1X8005 1X264da 1X26523 1X8060 1X265a8 1X8070 1X2335f 1X43d5 1X80b2 1X8103 1X440b",
   "1X813e 1X5ab5 1X267a7 1X267b5 1X23393 1X2339c 1X8201 1X8204 1X8f9e 1X446b 1X8291 1X828b",
   "1X829d 1X52b3 1X82b1 1X82b3 1X82bd 1X82e6 1X26b3c 1X82e5 1X831d 1X8363 1X83ad 1X8323 1X83bd",
   "1X83e7 1X8457 1X8353 1X83ca 1X83cc 1X83dc 1X26c36 1X26d6b 1X26cd5 1X452b 1X84f1 1X84f3 1X8516",
   "1X273ca 1X8564 1X26f2c 1X455d 1X4561 1X26fb1 1X270d2 1X456b 1X8650 1X865c 1X8667 1X8669",
   "1X86a9 1X8688 1X870e 1X86e2 1X8779 1X8728 1X876b 1X8786 1X45d7 1X87e1 1X8801 1X45f9 1X8860",
   "1X8863 1X27667 1X88d7 1X88de 1X4635 1X88fa 1X34bb 1X278ae 1X27966 1X46be 1X46c7 1X8aa0 1X8aed",
   "1X8b8a 1X8c55 1X27ca8 1X8cab 1X8cc1 1X8d1b 1X8d77 1X27f2f 1X20804 1X8dcb 1X8dbc 1X8df0",
   "1X208de 1X8ed4 1X8f38 1X285d2 1X285ed 1X9094 1X90f1 1X9111 1X2872e 1X911b 1X9238 1X92d7",
   "1X92d8 1X927c 1X93f9 1X9415 1X28bfa 1X958b 1X4995 1X95b7 1X28d77 1X49e6 1X96c3 1X5db2 1X9723",
   "1X29145 1X2921a 1X4a6e 1X4a76 1X97e0 1X2940a 1X4ab2 1X29496 1X980b 1X980b 1X9829 1X295b6",
   "1X98e2 1X4b33 1X9929 1X99a7 1X99c2 1X99fe 1X4bce 1X29b30 1X9b12 1X9c40 1X9cfd 1X4cce 1X4ced",
   "1X9d67 1X2a0ce 1X4cf8 1X2a105 1X2a20e 1X2a291 1X9ebb 1X4d56 1X9ef9 1X9efe 1X9f05 1X9f0f",
   "1X9f16 1X9f3b 1X2a600"]

end Switchyard.Idna.Table
