/-
How the characters of a domain are mapped before it is converted.

The table covers all code points in order.  Each entry is a run: its length in hexadecimal, a letter
and, for some letters, an argument.  `V` keeps characters, `I` drops them, `X` forbids them, `O` adds
the argument, `N` subtracts it, `P` maps every other character, from the first on, to its successor,
and `S` gives the characters that stand for the one character of the run.
-/
namespace Switchyard.Idna.Table

/-- Part 1 of `mapping`. -/
def mappingPart1 : List String :=
  ["41V 1aO20 25V 20X 1N80 7V 1S20.308 1V 1N49 2V 1I 1V 1S20.304 2V 2N80 1S20.301 1O307 2V",
   "1S20.327 1N88 1N4b 1V 1S31.2044.34 1S31.2044.32 1S33.2044.34 1V 17O20 1V 7O20 21V 30P",
   "1S69.307 1V 1S69.6a 1S69.6a 1O1 1V 1O1 2V 6P 1S6c.b7 1S6c.b7 8P 1S2bc.6e 2eP 1N79 6P 1N10c 1V",
   "1Od2 4P 1Oce 1O1 1V 2Ocd 1O1 2V 1O4f 1Oca 1Ocb 1O1 1V 1Ocd 1Ocf 1V 1Od3 1Od1 1O1 3V 1Od3 1Od5",
   "1V 1Od6 6P 1Oda 1O1 1V 1Oda 2V 1O1 1V 1Oda 1O1 1V 2Od9 4P 1Odb 1O1 3V 1O1 7V 1S64.17e",
   "1S64.17e 1S64.17e 1S6c.6a 1S6c.6a 1S6c.6a 1S6e.6a 1S6e.6a 1S6e.6a eP 1O1 2V 10P 1O1 2V",
   "1S64.7a 1S64.7a 1S64.7a 1O1 1V 1N61 1N38 28P 1N82 1V 10P 1O1 7V 1O2a2b 1O1 1V 1Na3 1O2a28 2V",
   "1O1 1V 1Nc3 1O45 1O47 8P 1O1 61V 1N248 1N4b 1N248 1N241 1N3b 1N3a 1N35 1N240 1N23f 1fV",
   "1S20.306 1S20.307 1S20.30a 1S20.328 1S20.303 1S20.30b 2V 1N7d 1N275 1N26f 1N26b 1N4f 5bV 2N40",
   "1V 1N30 1S308.301 1O74 9V 1I 20V 4P 1Nbb 1V 1O1 1V 2X 1S20.3b9 3V 1N343 1O74 4X 1S20.301",
   "1S20.308.301 1O26 1N2d0 3O25 1X 1O40 1X 2O3f 1V 11O20 1X 9O20 23V 1O8 1N1e 1N19 1Nd 1N6 1N9",
   "1Nf 1N16 1V 18P 1N36 1N30 1N2f 1V 1N3c 1N40 1V 1O1 1V 1N36 1O1 2V 3N82 10O50 20O20 30V 20P",
   "1O1 9V 36P 1X cP 1O1 2V 60P 1X 26O30 2X 2eV 1S565.582 3V 2X 3V 1X 37V 8X 1bV 4X 6V 11X 16V 1X",
   "58V 1S627.674 1S648.674 1S6c7.674 1S64a.674 64V 1X 30V 2X 3bV 2X 65V eX 3bV 2X 31V 2X fV 1X",
   "1cV 2X 1V 1X bV 5X 1fV 9X 4aV 1X 75V 1S915.93c 1S916.93c 1S917.93c 1S91c.93c 1S921.93c",
   "1S922.93c 1S92b.93c 1S92f.93c 24V 1X 8V 2X 2V 2X 16V 1X 7V 1X 1V 3X 4V 2X 9V 2X 2V 2X 4V 8X",
   "1V 4X 1S9a1.9bc 1S9a2.9bc 1X 1S9af.9bc 4V 2X 19V 2X 3V 1X 6V 4X 2V 2X 16V 1X 7V 1X 1V",
   "1Sa32.a3c 1X 1V 1Sa38.a3c 1X 2V 2X 1V 1X 5V 4X 2V 2X 3V 3X 1V 7X 1Sa16.a3c 1Sa17.a3c",
   "1Sa1c.a3c 1V 1X 1Sa2b.a3c 7X 11V aX 3V 1X 9V 1X 3V 1X 16V 1X 7V 1X 2V 1X 5V 2X aV 1X 3V 1X 3V",
   "2X 1V fX 4V 2X cV 7X 7V 1X 3V 1X 8V 2X 2V 2X 16V 1X 7V 1X 2V 1X 5V 2X 9V 2X 2V 2X 3V 7X 3V 4X",
   "1Sb21.b3c 1Sb22.b3c 1X 5V 2X 12V aX 2V 1X 6V 3X 3V 1X 4V 3X 2V 1X 1V 1X 2V 3X 2V 3X 3V 3X cV",
   "4X 5V 3X 3V 1X 4V 2X 1V 6X 1V eX 15V 5X dV 1X 3V 1X 17V 1X 10V 2X 9V 1X 3V 1X 4V 7X 2V 1X 3V",
   "2X 1V 2X 4V 2X aV 7X 16V 1X 3V 1X 17V 1X aV 1X 5V 2X 9V 1X 3V 1X 4V 7X 2V 6X 2V 1X 4V 2X aV",
   "1X 3V cX dV 1X 3V 1X 33V 1X 3V 1X 6V 4X 10V 2X 1aV 1X 3V 1X 12V 3X 18V 1X 9V 1X 1V 2X 7V 3X",
   "1V 4X 6V 1X 1V 1X 8V 6X aV 2X 3V cX 32V 1Se4d.e32 7V 4X 1dV 25X 2V 1X 1V 1X 5V 1X 18V 1X 1V",
   "1X cV 1Secd.eb2 aV 2X 5V 1X 1V 1X 7V 1X aV 2X 1Seab.e99 1Seab.ea1 2V 20X cV 1N1 36V 1Sf42.fb7",
   "4V 1X 4V 1Sf4c.fb7 4V 1Sf51.fb7 4V 1Sf56.fb7 4V 1Sf5b.fb7 cV 1Sf40.fb5 3V 4X 2V 1Sf71.f72 1V",
   "1Sf71.f74 1Sfb2.f80 1Sfb2.f71.f80 1Sfb3.f80 1Sfb3.f71.f80 7V 1Sf71.f80 11V 1Sf92.fb7 4V 1X 4V",
   "1Sf9c.fb7 4V 1Sfa1.fb7 4V 1Sfa6.fb7 4V 1Sfab.fb7 cV 1Sf90.fb5 3V 1X fV 1X dV 25X a0V 27X",
   "1O1c60 5X 1O1c60 2X 2cV 1N20 62V 2X e8V 1X 4V 2X 7V 1X 1V 1X 4V 2X 29V 1X 4V 2X 21V 1X 4V 2X",
   "7V 1X 1V 1X 4V 2X fV 1X 39V 1X 4V 2X 43V 2X 20V 3X 1aV 6X 56V 2X 6N8 2X 280V 1X 1cV 3X 59V 7X",
   "16V 9X 18V 9X 14V cX dV 1X 3V 1X 2V cX 34V 2X 28V 2X aV 6X aV 6X 6V 1X 4V 3I 1X 1I aV 6X 59V",
   "7X 2bV 5X 46V aX 1fV 1X cV 4X cV 4X 1V 3X 2aV 2X 5V bX 2cV 4X 1aV 6X bV 3X 3eV 2X 41V 1X 1dV",
   "2X bV 6X aV 6X eV 2X 1fV 31X 4dV 3X 2fV 1X 74V 8X 3cV 3X fV 3X 33V 1N184e 1N184d 1N1844",
   "2N1842 1N1843 1N183c 1N1824 1O89c3 7X 2bNbc0 2X 3Nbc0 8V 8X 2bV 5X 2cV 1N1ccb 1N1c47 1N1ccc",
   "1V 2N1ccc 1N1b55 8N1ccc 1V 1N1ccd 1N1b1a 1N1cce 1N1ccd 2N1ccc 1N1ccb 1N1ce2 2N1af4 1N44",
   "1N1ce5 2N1ce4 1N1af1 2N1af0 1N1ce6 1V 1N1ce4 1N1ce3 1N1c06 1N1ce3 1N1aff 2N3e 1N1ce6 2N1ce3",
   "1N3c 1N1aeb 1N1ce5 1N37 3N19ab 2N199a 1N1cf9 1N1cf1 2N1cef 2N19b4 1N19a7 2N19a3 dV 1N193b 22V",
   "1N1b49 1N1d39 1N1b48 1N1cae 1N1b43 1N1d3a 1N1b42 1N1b41 1N1b3e 3N1b3c 1N2c 1N1b0b 1N1b3c 1N25",
   "1N1b0c 1N1b3b 1N1b3d 4N1b3c 1N1b3a 2N1b31 1N1c0a 2N1b2d 1N9c 2N1b2e 1N1d41 3N1b2c 1N1a07 40V",
   "94P 1O1 5V 1S61.2be 1N3a 2V 1N1dbf 1V 5eP 1O1 9V 8N8 6V 2X 6N8 2X 8V 8N8 8V 8N8 6V 2X 6N8 2X",
   "8V 1X 1N8 1X 1N8 1X 1N8 1X 1N8 8V 8N8 1V 1N1bc5 1V 1N1bc6 1V 1N1bc7 1V 1N1bc8 1V 1N1bad 1V",
   "1N1bae 1V 1N1baf 2X 1S1f00.3b9 1S1f01.3b9 1S1f02.3b9 1S1f03.3b9 1S1f04.3b9 1S1f05.3b9",
   "1S1f06.3b9 1S1f07.3b9 1S1f00.3b9 1S1f01.3b9 1S1f02.3b9 1S1f03.3b9 1S1f04.3b9 1S1f05.3b9",
   "1S1f06.3b9 1S1f07.3b9 1S1f20.3b9 1S1f21.3b9 1S1f22.3b9 1S1f23.3b9 1S1f24.3b9 1S1f25.3b9",
   "1S1f26.3b9 1S1f27.3b9 1S1f20.3b9 1S1f21.3b9 1S1f22.3b9 1S1f23.3b9 1S1f24.3b9 1S1f25.3b9",
   "1S1f26.3b9 1S1f27.3b9 1S1f60.3b9 1S1f61.3b9 1S1f62.3b9 1S1f63.3b9 1S1f64.3b9 1S1f65.3b9",
   "1S1f66.3b9 1S1f67.3b9 1S1f60.3b9 1S1f61.3b9 1S1f62.3b9 1S1f63.3b9 1S1f64.3b9 1S1f65.3b9",
   "1S1f66.3b9 1S1f67.3b9 2V 1S1f70.3b9 1S3b1.3b9 1S3ac.3b9 1X 1V 1S1fb6.3b9 2N8 1N4a 1N1c0f",
   "1S3b1.3b9 1S20.313 1N1c05 1S20.313 1S20.342 1S20.308.342 1S1f74.3b9 1S3b7.3b9 1S3ae.3b9 1X 1V",
   "1S1fc6.3b9 1N56 1N1c1c 1N56 1N1c1d 1S3b7.3b9 1S20.313.300 1S20.313.301 1S20.313.342 3V 1N1c43",
   "2X 2V 2N8 1N64 1N1c2c 1X 1S20.314.300 1S20.314.301 1S20.314.342 3V 1N1c33 4V 2N8 1N70 1N1c1e",
   "1N7 1S20.308.300 1S20.308.301 1N1f8f 2X 1S1f7c.3b9 1S3c9.3b9 1S3ce.3b9 1X 1V 1S1ff6.3b9 1N80",
   "1N1c2d 1N7e 1N1c2d 1S3c9.3b9 1S20.301 1S20.314 1X 1N1fe0 1N1fe1 1N1fe2 1N1fe3 1N1fe4 1N1fe5",
   "1N1fe6 1N1fe7 1N1fe8 1N1fe9 1N1fea 1I 2V 2X 1V 1N1 5V 1S20.333 cV 3X 1V 7X 1N200f 3V",
   "1S2032.2032 1S2032.2032.2032 1V 1S2035.2035 1S2035.2035.2035 4V 1S21.21 1V 1S20.305 8V",
   "1S3f.3f 1S3f.21 1S21.3f dV 1S2032.2032.2032.2032 7V 1N203f 1I 3X 1I bX 1N2040 1N2008 2X",
   "6N2040 1N204f 1O197 1N203f 2N2055 1N2011 aN2050 1N205f 1O187 1N204f 2N2065 1X 1N202f 1N202c",
   "1N2023 1N201b 1N1e3b 1N202d 4N202b 1N202a 2N2028 3X 8V 1S72.73 18V fX 21V fX 1S61.2f.63",
   "1S61.2f.73 1N209f 1Sb0.63 1V 1S63.2f.6f 1S63.2f.75 1N1eac 1V 1Sb0.66 2N20a3 1N20a4 1N20a5",
   "1N20a6 1N1fe8 1N20a7 1N20a8 1N20a6 1N20a7 1V 1N20a7 1S6e.6f 2V 3N20a9 1N20aa 1N20ab 2V",
   "1S73.6d 1S74.65.6c 1S74.6d 1V 1N20aa 1V 1N1d5d 1V 1N20ae 1V 1N20bf 1N2046 2N20ca 1V 1N20ca",
   "2N20cb 1X 1N20c6 1N20c5 4N1b65 1N20d0 1V 1S66.61.78 1N1d7c 1N1d8a 1N1d8b 1N1d7f 1Od1 4V",
   "1N20e1 2N20e2 2N20df 6V 1S31.2044.37 1S31.2044.39 1S31.2044.31.30 1S31.2044.33 1S32.2044.33",
   "1S31.2044.35 1S32.2044.35 1S33.2044.35 1S34.2044.35 1S31.2044.36 1S35.2044.36 1S31.2044.38",
   "1S33.2044.38 1S35.2044.38 1S37.2044.38 1S31.2044 1N20f7 1S69.69 1S69.69.69 1S69.76 1N20ee",
   "1S76.69 1S76.69.69 1S76.69.69.69 1S69.78 1N20f1 1S78.69 1S78.69.69 1N2100 2N210a 1N2102",
   "1N2107 1S69.69 1S69.69.69 1S69.76 1N20fe 1S76.69 1S76.69.69 1S76.69.69.69 1S69.78 1N2101",
   "1S78.69 1S78.69.69 1N2110 2N211a 1N2112 3V 1X 5V 1S30.2044.33 2V 4X 9cV 1S222b.222b",
   "1S222b.222b.222b 1V 1S222e.222e 1S222e.222e.222e f8V 2Ocdf fcV 19X bV 15X 9N242f 1S31.30",
   "1S31.31 1S31.32 1S31.33 1S31.34 1S31.35 1S31.36 1S31.37 1S31.38 1S31.39 1S32.30 1S28.31.29",
   "1S28.32.29 1S28.33.29 1S28.34.29 1S28.35.29 1S28.36.29 1S28.37.29 1S28.38.29 1S28.39.29",
   "1S28.31.30.29 1S28.31.31.29 1S28.31.32.29 1S28.31.33.29 1S28.31.34.29 1S28.31.35.29",
   "1S28.31.36.29 1S28.31.37.29 1S28.31.38.29 1S28.31.39.29 1S28.32.30.29 14X 1S28.61.29",
   "1S28.62.29 1S28.63.29 1S28.64.29 1S28.65.29 1S28.66.29 1S28.67.29 1S28.68.29 1S28.69.29",
   "1S28.6a.29 1S28.6b.29 1S28.6c.29 1S28.6d.29 1S28.6e.29 1S28.6f.29 1S28.70.29 1S28.71.29",
   "1S28.72.29 1S28.73.29 1S28.74.29 1S28.75.29 1S28.76.29 1S28.77.29 1S28.78.29 1S28.79.29",
   "1S28.7a.29 1aN2455 1aN246f 1N24ba 521V 1S222b.222b.222b.222b 67V 1S3a.3a.3d 1S3d.3d",
   "1S3d.3d.3d 65V 1S2add.338 97V 2X 20V 1X 69V 30O30 30V 1O1 1V 1N29f7 1Nee6 1N29e7 2V 6P 1N2a1c",
   "1N29fd 1N2a1f 1N2a1e 1V 1O1 2V 1O1 6V 1N2c12 1N2c07 2N2a3f 62P 1O1 8V 1O1 1V 1O1 4V 1O1 1V 5X",
   "2dV 1X 1V 5X 1V 2X 38V 7X 1Ne 1V eX 18V 9X 7V 1X 7V 1X 7V 1X 7V 1X 7V 1X 7V 1X 7V 1X 7V 1X",
   "7eV 22X 1aV 1X 4V 1O3d2e 53V 1O70ac cX 1O1f00 1O1f27 1O1f34 1O1f3c 1O1f55 1O1f80 1O1f86",
   "1O1f99 1O1fb2 1O2236 1O225b 1O2260 1O2276 1O2289 1O229d 1O22d1 1O22e5 1O22ef 1O2389 1O23e6",
   "1O2401 1O2405 1O2422 1O242a 1O2444 1O2450 1O2468 1O249b 1O24ac 1O24c6 1O27b9 1O2800 1O29cb",
   "1O29e1 1O29e8 1O29f2 1O2a03 1O2a4e 1O2c2a 1O2c59 1O2cd0 1O2ce6 1O2cf8 1O2d0d 1O2d42 1O2d44",
   "1O2ead 1O2eb6 1O2ec1 1O2ecd 1O2f40 1O2f47 1O2f4b 1O2fbf 1O2fc8 1O2fd4 1O2fdb 1O3017 1O3027",
   "1O3038 1O3087 1O32cb 1O32f8 1O330c 1O35ef 1O35f3 1O3645 1O3654 1O3660 1O3674 1O369a 1O369e",
   "1O37a8 1O37bf 1O37de 1O3bd5 1O3c16 1O3c2c 1O3c65 1O3c7c 1O3c84 1O3c8a 1O3cbd 1O3cc1 1O3ce0",
   "1O4116 1O42d4 1O42df 1O42e3 1O42e6 1O42ed 1O42fe 1O42ff 1O434f 1O4426 1O442a 1O457c 1O4585",
   "1O45b6 1O45bc 1O45c4 1O45cb 1O4625 1O462b 1O470e 1O4714 1O4744 1O4754 1O4782 1O486e 1O4874",
   "1O4884 1O49ca 1O4a47 1O4a4c 1O4b01 1O4b57 1O4b84 1O4cfd 1O4d81 1O4fbe 1O4fd8 1O5010 1O5042",
   "1O5085 1O508f 1O5094 1O50b4 1O50ff 1O5108 1O5261 1O5267 1O526f 1O5277 1O5286 1O5294 1O5297",
   "1O52e5 1O52e8 1O52ed 1O56c1 1O56de 1O58b2 1O58bd 1O58d3 1O59ed 1O59f9 1O5a3f 1O5a6c 1O5ca2",
   "1O5cb0 1O5cbe 1O5ce0 1O5d04 1O5dca 1O5dd5 1O5e17 1O5f0e 1O5f2c 1O5ffc 1O6010 1O6014 1O60ef",
   "1O61a6 1O6222 1O6227 1O622b 1O65d0 1O65d8 1O6673 1O670c 1O670e 1O673c 1O67a4 1O67b0 1O67b3",
   "1O67b9 1O681a 1O683b 1O6840 1O684d 1O68f3 1O6925 1O6928 1O69de 1O69e0 1O69f2 1O6aed 1O6b1c",
   "1O6b22 1O6b67 1O6b70 1O6b72 1O6b7b 1O6b98 1O6d22 1O6eb1 1O6eba 1O6edf 1O6ef4 1O6efb 1O6f04",
   "1O6f07 1O6f2e 1O6f31 1O6f41 1O6f45 1O6f51 1O6f6b 1O6f79 1O6f80 1O6fba 1O6fc8 1O6fcb 2aX",
   "1N2fe0 1V 1N2fd4 33V 1N24 1V 1O2309 2O230b 5V 1X 56V 2X 2V 1S20.3099 1S20.309a 2V 1S3088.308a",
   "5fV 1S30b3.30c8 5X 2bV 1X 2N2031 1N1f89 1N2032 2N1f89 3N2034 6N1f8a 1N2026 3N203b 1N2023",
   "aN203c 15N1fee 1X 2N2051 2N1fa0 1N1f9d 1N1f9c 1N1f98 1N1f95 1N1f94 1N2052 1N1f92 1N1f91",
   "2N2054 1N2053 2N2052 1N204f 1N204e 5N204d 1N204b 1N2048 1N203f 1N2039 1N2035 2N1f91 3N202d",
   "2N2003 1N2001 2N1ff9 1N1ff8 1N1fef 1N1fed 1X 2V 1O1c6e 1O1cf9 1O1c75 1O2546 1O1c74 1O1c96",
   "1O1c73 1O4399 1O1cbf 1O1c7e 1O1c65 1O278c 1O2592 1O1d1b 44V cX 10V 1S28.1100.29 1S28.1102.29",
   "1S28.1103.29 1S28.1105.29 1S28.1106.29 1S28.1107.29 1S28.1109.29 1S28.110b.29 1S28.110c.29",
   "1S28.110e.29 1S28.110f.29 1S28.1110.29 1S28.1111.29 1S28.1112.29 1S28.ac00.29 1S28.b098.29",
   "1S28.b2e4.29 1S28.b77c.29 1S28.b9c8.29 1S28.bc14.29 1S28.c0ac.29 1S28.c544.29 1S28.c790.29",
   "1S28.cc28.29 1S28.ce74.29 1S28.d0c0.29 1S28.d30c.29 1S28.d558.29 1S28.c8fc.29",
   "1S28.c624.c804.29 1S28.c624.d6c4.29 1X 1S28.4e00.29 1S28.4e8c.29 1S28.4e09.29 1S28.56db.29",
   "1S28.4e94.29 1S28.516d.29 1S28.4e03.29 1S28.516b.29 1S28.4e5d.29 1S28.5341.29 1S28.6708.29",
   "1S28.706b.29 1S28.6c34.29 1S28.6728.29 1S28.91d1.29 1S28.571f.29 1S28.65e5.29 1S28.682a.29",
   "1S28.6709.29 1S28.793e.29 1S28.540d.29 1S28.7279.29 1S28.8ca1.29 1S28.795d.29 1S28.52b4.29",
   "1S28.4ee3.29 1S28.547c.29 1S28.5b66.29 1S28.76e3.29 1S28.4f01.29 1S28.8cc7.29 1S28.5354.29",
   "1S28.796d.29 1S28.4f11.29 1S28.81ea.29 1S28.81f3.29 1O230b 1O2c37 1O3341 1O4948 8V 1S70.74.65",
   "1S32.31 1S32.32 1S32.33 1S32.34 1S32.35 1S32.36 1S32.37 1S32.38 1S32.39 1S33.30 1S33.31",
   "1S33.32 1S33.33 1S33.34 1S33.35 1N2160 2N215f 3N215e 1N215d 2N215c 5N215b 1O7992 1O7e29",
   "1O8074 1O850b 1O8756 1O89a1 1O8e38 1O92cf 1O951a 1O99b1 1O9bfc 1O9e47 1Oa092 1Oa2dd",
   "1Scc38.ace0 1Sc8fc.c758 1O9432 1V 1O1b80 1O1c0b 1O1b87 1O2458 1O1c10 1O1ee8 1O1b7d 1O1ee4",
   "1O1bd5 1O20b8 1O347e 1O3de0 1O39a8 1O349b 1O5f43 1O2490 1O3355 1O3599 1O3477 1O46ab 1O2179",
   "1O3fe4 1O5a0b 1O46c6 1O201c 1O473f 1O429d 1O26d8 1O5dcd 1O1e8d 1O20d2 1O3a49 1O6565 1O1c70",
   "1O1ef7 1O38c0 1O1b66 1O1b88 1O1b65 1O2b3f 1O214b 1O2092 1O28ed 1O28bb 1O4437 1O1c54 1O5a19",
   "1O20a5 1O266c 1S33.36 1S33.37 1S33.38 1S33.39 1S34.30 1S34.31 1S34.32 1S34.33 1S34.34 1S34.35",
   "1S34.36 1S34.37 1S34.38 1S34.39 1S35.30 1S31.6708 1S32.6708 1S33.6708 1S34.6708 1S35.6708",
   "1S36.6708 1S37.6708 1S38.6708 1S39.6708 1S31.30.6708 1S31.31.6708 1S31.32.6708 1S68.67",
   "1S65.72.67 1S65.76 1S6c.74.64 1N22e 1N22d 1N22c 1N22b 2N22a 1N229 1N228 1N227 1N226 1N225",
   "1N224 1N223 1N222 1N221 1N220 1N21f 1N21d 1N21c 1N21b 6N21a 1N218 1N216 1N214 1N212 5N210",
   "1N20f 1N20e 6N20d 4N20c 1S4ee4.548c 1S30a2.30d1.30fc.30c8 1S30a2.30eb.30d5.30a1",
   "1S30a2.30f3.30da.30a2 1S30a2.30fc.30eb 1S30a4.30cb.30f3.30b0 1S30a4.30f3.30c1",
   "1S30a6.30a9.30f3 1S30a8.30b9.30af.30fc.30c9 1S30a8.30fc.30ab.30fc 1S30aa.30f3.30b9",
   "1S30aa.30fc.30e0 1S30ab.30a4.30ea 1S30ab.30e9.30c3.30c8 1S30ab.30ed.30ea.30fc",
   "1S30ac.30ed.30f3 1S30ac.30f3.30de 1S30ae.30ac 1S30ae.30cb.30fc 1S30ad.30e5.30ea.30fc",
   "1S30ae.30eb.30c0.30fc 1S30ad.30ed 1S30ad.30ed.30b0.30e9.30e0 1S30ad.30ed.30e1.30fc.30c8.30eb",
   "1S30ad.30ed.30ef.30c3.30c8 1S30b0.30e9.30e0 1S30b0.30e9.30e0.30c8.30f3",
   "1S30af.30eb.30bc.30a4.30ed 1S30af.30ed.30fc.30cd 1S30b1.30fc.30b9 1S30b3.30eb.30ca",
   "1S30b3.30fc.30dd 1S30b5.30a4.30af.30eb 1S30b5.30f3.30c1.30fc.30e0 1S30b7.30ea.30f3.30b0",
   "1S30bb.30f3.30c1 1S30bb.30f3.30c8 1S30c0.30fc.30b9 1S30c7.30b7 1S30c9.30eb 1S30c8.30f3",
   "1S30ca.30ce 1S30ce.30c3.30c8 1S30cf.30a4.30c4 1S30d1.30fc.30bb.30f3.30c8 1S30d1.30fc.30c4",
   "1S30d0.30fc.30ec.30eb 1S30d4.30a2.30b9.30c8.30eb 1S30d4.30af.30eb 1S30d4.30b3 1S30d3.30eb",
   "1S30d5.30a1.30e9.30c3.30c9 1S30d5.30a3.30fc.30c8 1S30d6.30c3.30b7.30a7.30eb 1S30d5.30e9.30f3",
   "1S30d8.30af.30bf.30fc.30eb 1S30da.30bd 1S30da.30cb.30d2 1S30d8.30eb.30c4 1S30da.30f3.30b9",
   "1S30da.30fc.30b8 1S30d9.30fc.30bf 1S30dd.30a4.30f3.30c8 1S30dc.30eb.30c8 1S30db.30f3",
   "1S30dd.30f3.30c9 1S30db.30fc.30eb 1S30db.30fc.30f3 1S30de.30a4.30af.30ed 1S30de.30a4.30eb",
   "1S30de.30c3.30cf 1S30de.30eb.30af 1S30de.30f3.30b7.30e7.30f3 1S30df.30af.30ed.30f3",
   "1S30df.30ea 1S30df.30ea.30d0.30fc.30eb 1S30e1.30ac 1S30e1.30ac.30c8.30f3",
   "1S30e1.30fc.30c8.30eb 1S30e4.30fc.30c9 1S30e4.30fc.30eb 1S30e6.30a2.30f3",
   "1S30ea.30c3.30c8.30eb 1S30ea.30e9 1S30eb.30d4.30fc 1S30eb.30fc.30d6.30eb 1S30ec.30e0",
   "1S30ec.30f3.30c8.30b2.30f3 1S30ef.30c3.30c8 1S30.70b9 1S31.70b9 1S32.70b9 1S33.70b9 1S34.70b9",
   "1S35.70b9 1S36.70b9 1S37.70b9 1S38.70b9 1S39.70b9 1S31.30.70b9 1S31.31.70b9 1S31.32.70b9",
   "1S31.33.70b9 1S31.34.70b9 1S31.35.70b9 1S31.36.70b9 1S31.37.70b9 1S31.38.70b9 1S31.39.70b9",
   "1S32.30.70b9 1S32.31.70b9 1S32.32.70b9 1S32.33.70b9 1S32.34.70b9 1S68.70.61 1S64.61 1S61.75",
   "1S62.61.72 1S6f.76 1S70.63 1S64.6d 1S64.6d.32 1S64.6d.33 1S69.75 1S5e73.6210 1S662d.548c",
   "1S5927.6b63 1S660e.6cbb 1S682a.5f0f.4f1a.793e 1S70.61 1S6e.61 1S3bc.61 1S6d.61 1S6b.61",
   "1S6b.62 1S6d.62 1S67.62 1S63.61.6c 1S6b.63.61.6c 1S70.66 1S6e.66 1S3bc.66 1S3bc.67 1S6d.67",
   "1S6b.67 1S68.7a 1S6b.68.7a 1S6d.68.7a 1S67.68.7a 1S74.68.7a 1S3bc.6c 1S6d.6c 1S64.6c 1S6b.6c",
   "1S66.6d 1S6e.6d 1S3bc.6d 1S6d.6d 1S63.6d 1S6b.6d 1S6d.6d.32 1S63.6d.32 1S6d.32 1S6b.6d.32",
   "1S6d.6d.33 1S63.6d.33 1S6d.33 1S6b.6d.33 1S6d.2215.73 1S6d.2215.73.32 1S70.61 1S6b.70.61",
   "1S6d.70.61 1S67.70.61 1S72.61.64 1S72.61.64.2215.73 1S72.61.64.2215.73.32 1S70.73 1S6e.73",
   "1S3bc.73 1S6d.73 1S70.76 1S6e.76 1S3bc.76 1S6d.76 1S6b.76 1S6d.76 1S70.77 1S6e.77 1S3bc.77",
   "1S6d.77 1S6b.77 1S6d.77 1S6b.3c9 1S6d.3c9 1X 1S62.71 1S63.63 1S63.64 1S63.2215.6b.67 1X",
   "1S64.62 1S67.79 1S68.61 1S68.70 1S69.6e 1S6b.6b 1S6b.6d 1S6b.74 1S6c.6d 1S6c.6e 1S6c.6f.67",
   "1S6c.78 1S6d.62 1S6d.69.6c 1S6d.6f.6c 1S70.68 1X 1S70.70.6d 1S70.72 1S73.72 1S73.76 1S77.62",
   "1S76.2215.6d 1S61.2215.6d 1S31.65e5 1S32.65e5 1S33.65e5 1S34.65e5 1S35.65e5 1S36.65e5",
   "1S37.65e5 1S38.65e5 1S39.65e5 1S31.30.65e5 1S31.31.65e5 1S31.32.65e5 1S31.33.65e5",
   "1S31.34.65e5 1S31.35.65e5 1S31.36.65e5 1S31.37.65e5 1S31.38.65e5 1S31.39.65e5 1S32.30.65e5",
   "1S32.31.65e5 1S32.32.65e5 1S32.33.65e5 1S32.34.65e5 1S32.35.65e5 1S32.36.65e5 1S32.37.65e5",
   "1S32.38.65e5 1S32.39.65e5 1S33.30.65e5 1S33.31.65e5 1S67.61.6c 708dV 3X 37V 9X 15cV 14X 2cP",
   "1O1 13V 1cP 1Na252 1Na251 5aV 8X 22V cP 1O1 3V 3eP 1N1 8V 4P 1N8a04 8P 1O1 4V 1O1 1V 1Na528",
   "2V 1O1 1V 1O1 3V 14P 1Na544 1Na54f 1Na54b 1Na541 1Na544 1V 1Na512 1Na52a 1Na515 1O3a0 10P",
   "1N30 1Na543 1N8a38 4P 5X 1O1 1V 1X 1V 1X 1V 4P 18X 1Na78f 1Na78d 1Na783 1O1 2V 1Na6d1 1Na6a6",
   "33V 3X aV 6X 38V 8X 46V 8X cV 6X 74V bX 1eV 3X 4eV 1X bV 4X 21V 1X 37V 9X eV 2X aV 2X 67V 18X",
   "1cV aX 6V 2X 6V 2X 6V 9X 7V 1X 7V 1X 2cV 1N435 1N26 1Na8f3 1Nd 9V 1Na8dc 2V 4X 50N97d0 2eV 2X",
   "aV 6X 2ba4V cX 17V 4X 31V 2104X 1N6cb8 1N920d 1N6a38 1N6c3b 1N8a33 1Naad3 1Na521 1N596b",
   "1N596c 1N9fb8 1N6739 1Na384 1N9fc4 1N9717 1N82a5 1N798a 1N72d1 1N7157 1N701a 1N6884 1N8f12",
   "1N8bfa 1N883d 1N8539 1N74db 1N67af 1N5f29 1Naa99 1Na5a7 1N8e19 1N8703 1N72f2 1N5b02 1N9bd1",
   "1N8937 1N7356 1N6fc0 1N965c 1N774e 1N7108 1N9a5e 1N9212 1N8bc0 1N862f 1N685e 1Na9a7 1Na777",
   "1Na651 1N946c 1N8e5e 1N8722 1N824c 1N7933 1N732f 1N72da 1N6b48 1N6206 1N5dca 1N5b40 1N80af",
   "1N7fbd 1N7b9d 1N7575 1N663b 1N5ac1 1N6e6b 1Na063 1N9a3f 1N7ce4 1N78c7 1N86e4 1N807d 1N6c86",
   "1N6252 1Na072 1N9ce9 1N8f39 1N8b73 1N8a3f 1N7c20 1N7b19 1N6306 1Na680 1N78c8 1Na778 1Na789",
   "1N7f3a 1N7b99 1N7567 1N62e4 1N6dda 1N968c 1N8f5a 1N6e5f 1Nab25 1N9d78 1N994e 1N85da 1N83f2",
   "1Na64c 1N8069 1Na9a6 1N99bd 1Nab5a 1N8c9c 1N93f1 1N7c48 1Na5a8 1Na10e 1N826c 1N7525 1N6ec5",
   "1N8db6 1N69c1 1N8cea 1N9675 1N768f 1N95d5 1N8411 1Naac9 1Na80f 1Na7b0 1N90f9 1N7c94 1N770d",
   "1N6eab 1N67af 1Na68a 1Na53e 1Na00e 1N9a96 1N93be 1N8986 1N805b 1N63d9 1N5f1d 1N5af1 1N5abb",
   "1Na6ef 1N92c5 1N8e15 1N6a2b 1N9b1a 1N97ff 1N9790 1N94f7 1N8a6f 1N884a 1N850b 1N7fcb 1N7ba2",
   "1N7928 1N6a72 1N74ab 1N6977 1N6651 1Na785 1Na6fa 1Na4e1 1N88d7 1N70de 1N6ef7 1N9ad9 1N99ae",
   "1N9629 1N8df7 1N7d68 1N8632 1Naac4 1Na2b0 1N9dc3 1N9bf1 1N9990 1N85fb 1N8545 1N7a15 1N796a",
   "1N677d 1N62bc 1N626b 1N619c 1Naa2a 1N8008 1N6803 1N6300 1N98d8 1Nab34 1Na8e1 1N9dce 1N9d7e",
   "1N9425 1N8fbd 1N87f2 1N837f 1N74c6 1N6947 1N5a37 1N933d 1N6398 1Na73e 1N924d 1N91d6 1N8c89",
   "1N8b2f 1N85c3 1N8474 1N8163 1N7cbf 1N6172 1Na864 1N97a4 1N635b 1Na9a9 1N9cbc 1N8bec 1N6aad",
   "1N9a4d 1N9895 1N91c3 1N8654 1N6356 1Na7b4 1Na5cf 1N9d7a 1N93cd 1N9293 1N913a 1N8cfe 1N85de",
   "1N8403 1N7a6d 1N7118 1N7107 1N681d 1N6308 1Na6ac 1N8b32 1Na5d0 1N881e 1N8557 1N73f6 1N634e",
   "1N5d9b 1N5b54 1N925d 1N8c2a 1N780e 1N7f2c 1N7ed8 1N7d67 1N873a 1N8962 1N6ea4 1Nab3d 1N76c8",
   "1Na7c5 1Na7f9 1N9b5b 1N972f 1N7d2d 1N9e7f 1N8ce7 1N9352 1N6acc 1N71bc 1N63bc 1N707f 1N9b38",
   "1Na8cc 1Na44d 2V 1Na1b6 1V 1N939e 2V 1Na837 1N86ec 1N834d 1N80dc 1N80bb 1N80b5 1N808c 1N62c6",
   "1N7d5f 1N7a61 1V 1N740e 1V 1N6f2a 2V 1N69ed 1N6929 3V 1N613b 1N612f 1N6104 1N5c79 1N6950",
   "1N6378 1Naa82 1Na94a 1Na8e5 1Na76a 1Na750 1Na6e4 1Na499 1Na431 1Na3d0 1Na1f9 1Na192 1N9dd7",
   "1N9dce 1N99a9 1N98d6 1N98b1 1N984e 1N94f2 1N9460 1N93b2 1N91bf 1N8cce 1N8c2c 1N8b25 1N88da",
   "1N881e 1N8628 1N81ba 1N810e 1N8104 1N8106 1N80ff 1N80fa 1N80f4 2N80c5 1N8014 1N7fd4 1N7e96",
   "1N7c63 1N7c4f 1N7c18 1N7ae8 1N7a56 1N786f 1N77e4 1N77e5 1N7608 1N7150 1N70cb 1N6f61 1N6f2a",
   "1N6d91 1N6d5d 1N6ab0 1N6a2f 1N6385 1N626a 1N622f 1N99f6 1O14882 1N7855 2X 1Nac4a 1Na8bc",
   "1Na90a 1Naaf3 1Na92f 1Na8f5 1Na7af 1Na77d 1Na4db 1Na524 1Na4e1 1Na499 1Na222 1Na1ca 1Na13a",
   "1Na12b 1Na01e 1N9f59 1N9bb0 1N9baa 1N9b1b 1N9ad8 1N99ae 1N9939 1N9980 1N98fb 1N992a 1N9899",
   "1N9858 1N96c9 1N9672 1N963d 1N953a 1N941d 1N937b 1N9378 1N933e 1N8f1c 1N8edc 1N8d56 1N8bbd",
   "1N8bce 1N8b78 1N8a7d 1N892e 1N82f6 1N8869 1N87f0 1N8776 1N8630 1N859c 1N8568 1N8487 1N8486",
   "1N83dc 1N83cc 1N83b4 1N835f 1N836a 1N81df 1N7ffb 1N7eed 1N7e33 1N7d54 1N7cbc 1N7b73 1N7aad",
   "1N7761 1N76c5 1N733c 1N7175 1N7131 1N7122 1N6ffa 1N6fc2 1N6ff0 1N6fbb 1N6fbf 1N6fd1 1N6f86",
   "1N6f36 1N6db9 1N6b8a 1N6a51 1N692b 1N684f 1N644a 1N63e4 1N6372 1N62ee 1N62cb 1N62c0 1N6291",
   "1N5fbb 1N5b32 1O12d7b 1O12d74 1O13904 1Nbf35 1Nbabb 1Nba9b 1O15774 1O161fa 1O183fc 1N5b95",
   "1N5b4b 26X 1S66.66 1S66.69 1S66.6c 1S66.66.69 1S66.66.6c 1S73.74 1S73.74 cX 1S574.576",
   "1S574.565 1S574.56b 1S57e.576 1S574.56d 5X 1S5d9.5b4 1V 1S5f2.5b7 1Nf53e 1Nf551 2Nf54f 3Nf549",
   "1Nf53f 1Nf53e 1Nfafe 1S5e9.5c1 1S5e9.5c2 1S5e9.5bc.5c1 1S5e9.5bc.5c2 1S5d0.5b7 1S5d0.5b8",
   "1S5d0.5bc 1S5d1.5bc 1S5d2.5bc 1S5d3.5bc 1S5d4.5bc 1S5d5.5bc 1S5d6.5bc 1X 1S5d8.5bc 1S5d9.5bc",
   "1S5da.5bc 1S5db.5bc 1S5dc.5bc 1X 1S5de.5bc 1X 1S5e0.5bc 1S5e1.5bc 1X 1S5e3.5bc 1S5e4.5bc 1X",
   "1S5e6.5bc 1S5e7.5bc 1S5e8.5bc 1S5e9.5bc 1S5ea.5bc 1S5d5.5b9 1S5d1.5bf 1S5db.5bf 1S5e4.5bf",
   "1S5d0.5dc 1Nf4df 1Nf4e0 1Nf4d7 1Nf4d8 1Nf4d9 1Nf4da 1Nf4d8 1Nf4d9 1Nf4da 1Nf4db 1Nf4da 1Nf4db",
   "1Nf4dc 1Nf4dd 1Nf4e4 1Nf4e5 1Nf4e6 1Nf4e7 1Nf4e3 1Nf4e4 1Nf4e5 1Nf4e6 1Nf4ed 1Nf4ee 1Nf4ef",
   "1Nf4f0 1Nf4c6 1Nf4c7 1Nf4c8 1Nf4c9 1Nf4c8 1Nf4c9 1Nf4ca 1Nf4cb 1Nf4ee 1Nf4ef 1Nf4f0 1Nf4f1",
   "1Nf4f3 1Nf4f4 1Nf4f5 1Nf4f6 1Nf4f4 1Nf4f5 1Nf4f6 2Nf4f7 1Nf4f8 1Nf4f9 1Nf4fa 1Nf4f5 1Nf4f6",
   "1Nf4f8 1Nf4f9 1Nf4f8 1Nf4f9 1Nf500 1Nf501 1Nf4f2 1Nf4f3 1Nf4fb 1Nf4fc 1Nf4e5 1Nf4e6 1Nf4e7",
   "1Nf4e8 1Nf4e3 1Nf4e4 1Nf4e5 1Nf4e6 1Nf4e3 1Nf4e4 1Nf4e5 1Nf4e6 1Nf4e9 1Nf4ea 1Nf4eb 1Nf4ec",
   "1Nf4e4 2Nf4e5 1Nf4e6 1Nf4e7 1Nf4e8 1Nf4e4 2Nf4e5 1Nf4e6 1Nf4e7 1Nf4e8 1Nf4ec 1Nf4ed 1Nf4ee",
   "1Nf4ef 1Nf4dc 2Nf4dd 1Nf4de 11V 10X 1Nf526 1Nf527 1Nf528 1Nf529 1Nf510 1Nf511 1Nf513 1Nf514",
   "1Nf513 1Nf514 1S6c7.674 1Nf513 1Nf514 1Nf51b 1Nf51c 1Nf519 1Nf51a 1Nf514 1Nf515 1Nf516 1Nf517",
   "1Nf59f 1Nf5a0 1S626.627 1S626.627 1S626.6d5"]

/-- Part 2 of `mapping`. -/
def mappingPart2 : List String :=
  ["1S626.6d5 1S626.648 1S626.648 1S626.6c7 1S626.6c7 1S626.6c6 1S626.6c6 1S626.6c8 1S626.6c8",
   "1S626.6d0 1S626.6d0 1S626.6d0 1S626.649 1S626.649 1S626.649 1Nf530 1Nf531 1Nf532 1Nf533",
   "1S626.62c 1S626.62d 1S626.645 1S626.649 1S626.64a 1S628.62c 1S628.62d 1S628.62e 1S628.645",
   "1S628.649 1S628.64a 1S62a.62c 1S62a.62d 1S62a.62e 1S62a.645 1S62a.649 1S62a.64a 1S62b.62c",
   "1S62b.645 1S62b.649 1S62b.64a 1S62c.62d 1S62c.645 1S62d.62c 1S62d.645 1S62e.62c 1S62e.62d",
   "1S62e.645 1S633.62c 1S633.62d 1S633.62e 1S633.645 1S635.62d 1S635.645 1S636.62c 1S636.62d",
   "1S636.62e 1S636.645 1S637.62d 1S637.645 1S638.645 1S639.62c 1S639.645 1S63a.62c 1S63a.645",
   "1S641.62c 1S641.62d 1S641.62e 1S641.645 1S641.649 1S641.64a 1S642.62d 1S642.645 1S642.649",
   "1S642.64a 1S643.627 1S643.62c 1S643.62d 1S643.62e 1S643.644 1S643.645 1S643.649 1S643.64a",
   "1S644.62c 1S644.62d 1S644.62e 1S644.645 1S644.649 1S644.64a 1S645.62c 1S645.62d 1S645.62e",
   "1S645.645 1S645.649 1S645.64a 1S646.62c 1S646.62d 1S646.62e 1S646.645 1S646.649 1S646.64a",
   "1S647.62c 1S647.645 1S647.649 1S647.64a 1S64a.62c 1S64a.62d 1S64a.62e 1S64a.645 1S64a.649",
   "1S64a.64a 1S630.670 1S631.670 1S649.670 1S20.64c.651 1S20.64d.651 1S20.64e.651 1S20.64f.651",
   "1S20.650.651 1S20.651.670 1S626.631 1S626.632 1S626.645 1S626.646 1S626.649 1S626.64a",
   "1S628.631 1S628.632 1S628.645 1S628.646 1S628.649 1S628.64a 1S62a.631 1S62a.632 1S62a.645",
   "1S62a.646 1S62a.649 1S62a.64a 1S62b.631 1S62b.632 1S62b.645 1S62b.646 1S62b.649 1S62b.64a",
   "1S641.649 1S641.64a 1S642.649 1S642.64a 1S643.627 1S643.644 1S643.645 1S643.649 1S643.64a",
   "1S644.645 1S644.649 1S644.64a 1S645.627 1S645.645 1S646.631 1S646.632 1S646.645 1S646.646",
   "1S646.649 1S646.64a 1S649.670 1S64a.631 1S64a.632 1S64a.645 1S64a.646 1S64a.649 1S64a.64a",
   "1S626.62c 1S626.62d 1S626.62e 1S626.645 1S626.647 1S628.62c 1S628.62d 1S628.62e 1S628.645",
   "1S628.647 1S62a.62c 1S62a.62d 1S62a.62e 1S62a.645 1S62a.647 1S62b.645 1S62c.62d 1S62c.645",
   "1S62d.62c 1S62d.645 1S62e.62c 1S62e.645 1S633.62c 1S633.62d 1S633.62e 1S633.645 1S635.62d",
   "1S635.62e 1S635.645 1S636.62c 1S636.62d 1S636.62e 1S636.645 1S637.62d 1S638.645 1S639.62c",
   "1S639.645 1S63a.62c 1S63a.645 1S641.62c 1S641.62d 1S641.62e 1S641.645 1S642.62d 1S642.645",
   "1S643.62c 1S643.62d 1S643.62e 1S643.644 1S643.645 1S644.62c 1S644.62d 1S644.62e 1S644.645",
   "1S644.647 1S645.62c 1S645.62d 1S645.62e 1S645.645 1S646.62c 1S646.62d 1S646.62e 1S646.645",
   "1S646.647 1S647.62c 1S647.645 1S647.670 1S64a.62c 1S64a.62d 1S64a.62e 1S64a.645 1S64a.647",
   "1S626.645 1S626.647 1S628.645 1S628.647 1S62a.645 1S62a.647 1S62b.645 1S62b.647 1S633.645",
   "1S633.647 1S634.645 1S634.647 1S643.644 1S643.645 1S644.645 1S646.645 1S646.647 1S64a.645",
   "1S64a.647 1S640.64e.651 1S640.64f.651 1S640.650.651 1S637.649 1S637.64a 1S639.649 1S639.64a",
   "1S63a.649 1S63a.64a 1S633.649 1S633.64a 1S634.649 1S634.64a 1S62d.649 1S62d.64a 1S62c.649",
   "1S62c.64a 1S62e.649 1S62e.64a 1S635.649 1S635.64a 1S636.649 1S636.64a 1S634.62c 1S634.62d",
   "1S634.62e 1S634.645 1S634.631 1S633.631 1S635.631 1S636.631 1S637.649 1S637.64a 1S639.649",
   "1S639.64a 1S63a.649 1S63a.64a 1S633.649 1S633.64a 1S634.649 1S634.64a 1S62d.649 1S62d.64a",
   "1S62c.649 1S62c.64a 1S62e.649 1S62e.64a 1S635.649 1S635.64a 1S636.649 1S636.64a 1S634.62c",
   "1S634.62d 1S634.62e 1S634.645 1S634.631 1S633.631 1S635.631 1S636.631 1S634.62c 1S634.62d",
   "1S634.62e 1S634.645 1S633.647 1S634.647 1S637.645 1S633.62c 1S633.62d 1S633.62e 1S634.62c",
   "1S634.62d 1S634.62e 1S637.645 1S638.645 1S627.64b 1S627.64b 12V 1S62a.62c.645 1S62a.62d.62c",
   "1S62a.62d.62c 1S62a.62d.645 1S62a.62e.645 1S62a.645.62c 1S62a.645.62d 1S62a.645.62e",
   "1S62c.645.62d 1S62c.645.62d 1S62d.645.64a 1S62d.645.649 1S633.62d.62c 1S633.62c.62d",
   "1S633.62c.649 1S633.645.62d 1S633.645.62d 1S633.645.62c 1S633.645.645 1S633.645.645",
   "1S635.62d.62d 1S635.62d.62d 1S635.645.645 1S634.62d.645 1S634.62d.645 1S634.62c.64a",
   "1S634.645.62e 1S634.645.62e 1S634.645.645 1S634.645.645 1S636.62d.649 1S636.62e.645",
   "1S636.62e.645 1S637.645.62d 1S637.645.62d 1S637.645.645 1S637.645.64a 1S639.62c.645",
   "1S639.645.645 1S639.645.645 1S639.645.649 1S63a.645.645 1S63a.645.64a 1S63a.645.649",
   "1S641.62e.645 1S641.62e.645 1S642.645.62d 1S642.645.645 1S644.62d.645 1S644.62d.64a",
   "1S644.62d.649 1S644.62c.62c 1S644.62c.62c 1S644.62e.645 1S644.62e.645 1S644.645.62d",
   "1S644.645.62d 1S645.62d.62c 1S645.62d.645 1S645.62d.64a 1S645.62c.62d 1S645.62c.645",
   "1S645.62e.62c 1S645.62e.645 2X 1S645.62c.62e 1S647.645.62c 1S647.645.645 1S646.62d.645",
   "1S646.62d.649 1S646.62c.645 1S646.62c.645 1S646.62c.649 1S646.645.64a 1S646.645.649",
   "1S64a.645.645 1S64a.645.645 1S628.62e.64a 1S62a.62c.64a 1S62a.62c.649 1S62a.62e.64a",
   "1S62a.62e.649 1S62a.645.64a 1S62a.645.649 1S62c.645.64a 1S62c.62d.649 1S62c.645.649",
   "1S633.62e.649 1S635.62d.64a 1S634.62d.64a 1S636.62d.64a 1S644.62c.64a 1S644.645.64a",
   "1S64a.62d.64a 1S64a.62c.64a 1S64a.645.64a 1S645.645.64a 1S642.645.64a 1S646.62d.64a",
   "1S642.645.62d 1S644.62d.645 1S639.645.64a 1S643.645.64a 1S646.62c.62d 1S645.62e.64a",
   "1S644.62c.645 1S643.645.645 1S644.62c.645 1S646.62c.62d 1S62c.62d.64a 1S62d.62c.64a",
   "1S645.62c.64a 1S641.645.64a 1S628.62d.64a 1S643.645.645 1S639.62c.645 1S635.645.645",
   "1S633.62e.64a 1S646.62c.64a 7X 1V 20X 1S635.644.6d2 1S642.644.6d2 1S627.644.644.647",
   "1S627.643.628.631 1S645.62d.645.62f 1S635.644.639.645 1S631.633.648.644 1S639.644.64a.647",
   "1S648.633.644.645 1S635.644.649",
   "1S635.644.649.20.627.644.644.647.20.639.644.64a.647.20.648.633.644.645",
   "1S62c.644.20.62c.644.627.644.647 1S631.6cc.627.644 3V 10I 1Nfde4 1Nce10 1X 2Nfdd9 1Nfdf4",
   "1Nfdd7 2Nce01 7X 10V 1X 1Nde1d 1Nde1f 1Nfdd4 1Nfdd5 2Nfe0d 1Nfdbc 1Nfdbb 2Nce25 2Nce2b 2Nce33",
   "2Nce37 4Nce35 2V 1Nfdec 1Nfdeb 1S20.305 1S20.305 1S20.305 1S20.305 1Nfdee 1Nfdef 1Nfdf0",
   "1Nfe24 1Nce50 2X 1Nfe19 1Nfe1b 1Nfe17 1Nfe36 1Nde44 2Nfe31 1Nfde0 1Nfddf 2Nce49 1Nfe3c 1Nfe3a",
   "2Nfe37 1Nfe36 1Nfe28 1Nfe27 1Nfe29 1X 1Nfe0c 2Nfe45 1Nfe2b 4X 1S20.64b 1S640.64b 1S20.64c 1V",
   "1S20.64d 1X 1S20.64e 1S640.64e 1S20.64f 1S640.64f 1S20.650 1S640.650 1S20.651 1S640.651",
   "1S20.652 1S640.652 2Nf85f 2Nf860 2Nf861 2Nf862 2Nf863 1Nf864 1Nf865 2Nf866 2Nf867 1Nf868",
   "1Nf869 2Nf86a 2Nf86b 1Nf86c 1Nf86d 2Nf86e 1Nf86f 1Nf870 2Nf871 1Nf872 1Nf873 2Nf874 1Nf875",
   "1Nf876 2Nf877 1Nf878 1Nf879 2Nf87a 2Nf87b 2Nf87c 2Nf87d 2Nf87e 1Nf87f 1Nf880 2Nf881 1Nf882",
   "1Nf883 2Nf884 1Nf885 1Nf886 2Nf887 1Nf888 1Nf889 2Nf88a 1Nf88b 1Nf88c 2Nf88d 1Nf88e 1Nf88f",
   "2Nf890 1Nf891 1Nf892 2Nf893 1Nf894 1Nf895 1Nf896 1Nf890 1Nf891 1Nf892 2Nf893 1Nf894 1Nf895",
   "2Nf896 1Nf897 1Nf898 2Nf899 1Nf89a 1Nf89b 2Nf89c 1Nf89d 1Nf89e 2Nf89f 1Nf8a0 1Nf8a1 2Nf8a2",
   "1Nf8a3 1Nf8a4 2Nf8a5 2Nf8a6 2Nf8a7 1Nf8a8 1Nf8a9 1Nf8aa 1S644.622 1S644.622 1S644.623",
   "1S644.623 1S644.625 1S644.625 1S644.627 1S644.627 2X 1I 1X 20Nfee0 1aNfec0 24Nfee0 2Nd5da",
   "1Nff33 2Ncf56 1Ncf63 1Nce6a 1Nce74 1Ncec6 1Ncec5 1Ncec4 1Ncec3 1Ncec2 1Nce89 1Nce88 1Nce87",
   "1Nceac 1Nce74 1Ncecf 1Ncece 1Ncecd 1Ncecc 2Ncecb 1Nceca 1Ncec9 1Ncec8 1Ncec7 1Ncec6 1Ncec5",
   "1Ncec4 1Ncec3 1Ncec2 1Ncec1 1Ncec0 1Ncebe 1Ncebd 1Ncebc 6Ncebb 1Nceb9 1Nceb7 1Nceb5 1Nceb3",
   "5Nceb1 1Nceb0 1Nceaf 6Nceae 1Ncead 1Nceaa 2Ncf05 1X 2Neea1 1Nedf9 1Neea2 2Nedf9 3Neea4 6Nedfa",
   "1Nee96 3Neeab 1Nee93 aNeeac 3X 6Nee61 2X 6Nee63 2X 6Nee65 2X 3Nee67 3X 2Nff3e 1Nff36 1S20.304",
   "1Nff3e 1Nff40 1Ndf3d 1X 1Ndae6 4Nde59 1Nda4d 1Nda23 11X cV 1X 1aV 1X 13V 1X 2V 1X fV 2X eV",
   "22X 7bV 5X 3V 4X 2dV 3X 58V 1X dV 3X 1V 2fX 2eV 82X 1dV 3X 31V fX 1cV 4X 24V 9X 1eV 5X 2bV 5X",
   "1eV 1X 25V 4X eV 2aX 28O28 76V 2X aV 6X 24O28 4X 24V 4X 28V 8X 34V bX 1V bO27 1X fO27 1X 7O27",
   "1X 2O27 1X bV 1X fV 1X 7V 1X 2V 43X 137V 9X 16V aX 8V 18X 1V 2N104b1 1N1069d 1N104eb 1N10532",
   "1X 1N104e4 1N5c22 1N104e4 1N104e6 2N10535 1Ne9fc 1N10536 1N10531 1N104e7 1N1052d 1N10530",
   "1N10533 1N104f9 1N1066e 1N104fa 1N10530 1N10514 2N104ef 1N1052f 1Od768 1N600f 1N10530 1Od766",
   "1N10512 1Od765 1N106aa 2N1052d 1N10734 1N1052c 1Od761 2N1052b 1N1052a 1N10503 1N10506 1N5c46",
   "1N10507 1N10527 1Ndb3f 1X 1N10523 2N10512 1N1051d 3N105f6 1Od751 1Od764 45X 6V 2X 1V 1X 2cV",
   "1X 2V 3X 1V 2X 17V 1X 48V 8X 9V 30X 13V 1X 2V 5X 21V 3X 1bV 5X 1V 40X 38V 4X 14V 2X 32V 1X 2V",
   "5X 8V 1X 3V 1X 1dV 2X 3V 4X aV 7X 9V 7X 40V 20X 27V 4X cV 9X 36V 3X 1dV 2X 1bV 5X 1aV 7X 4V",
   "cX 7V 50X 49V 37X 33O40 dX 33V 7X 2eV 8X aV 126X 1fV 1X 2aV 1X 3V 2X 2V 4bX 2bV 8X 2aV 16X",
   "1aV 26X 1cV 14X 17V 9X 4eV 4X 24V 9X 3eV 1X 5V dX 19V 7X aV 6X 35V 1X 12V 8X 27V 9X 60V 1X",
   "14V bX 12V 1X 2fV 3eX 7V 1X 1V 1X 4V 1X fV 1X bV 6X 3bV 5X aV 6X 4V 1X 8V 2X 2V 2X 16V 1X 7V",
   "1X 2V 1X 5V 1X aV 2X 2V 2X 3V 2X 1V 6X 1V 5X 7V 2X 7V 3X 5V 8bX 5cV 1X 5V 1eX 48V 8X aV a6X",
   "36V 2X 26V 22X 45V bX aV 6X dV 13X 3aV 6X aV 36X 1bV 2X fV 4X 17V b9X 3cV 64X 20O20 33V cX 8V",
   "2X 1V 2X 8V 1X 2V 1X 1eV 1X 2V 2X cV 9X aV 46X 8V 2X 2eV 2X bV 1bX 48V 8X 53V dX 49V 7X aV",
   "f6X 9V 1X 2dV 1X eV aX 1dV 3X 20V 2X 16V 1X eV 49X 7V 1X 2V 1X 2cV 3X 1V 1X 2V 1X 9V 8X aV 6X",
   "6V 1X 2V 1X 25V 1X 2V 1X 6V 7X aV 136X 19V 7X 11V 1X 29V 3X 1cV 56X 1V fX 32V dX 39bV 66X 6fV",
   "1X 5V bX c4V a4cX 63V dX 430V 10X 16V faaX 247V 21b9X 239V 7X 1fV 1X aV 4X 51V 1X aV 6X 1eV",
   "2X 6V aX 46V aX aV 1X 7V 1X 15V 5X 13V 2b0X 20O20 3bV 65X 4bV 4X 39V 7X 11V 40X 5V bX 2V eX",
   "17f8V 8X 4d6V 2aX 9V 22e7X 4V 1X 7V 1X 2V 1X 123V fX 1V 1dX 3V 2X 1V eX 4V 8X 18cV 904X 6bV",
   "5X dV 3X 9V 7X aV 2X 4V 4I 125cX 2eV 2X 17V 9X 74V 3cX f6V aX 27V 2X 35V 1S1d157.1d165",
   "1S1d158.1d165 1S1d158.1d165.1d16e 1S1d158.1d165.1d16f 1S1d158.1d165.1d170 1S1d158.1d165.1d171",
   "1S1d158.1d165.1d172 eV 8X 40V 1S1d1b9.1d165 1S1d1ba.1d165 1S1d1b9.1d165.1d16e",
   "1S1d1ba.1d165.1d16e 1S1d1b9.1d165.1d16f 1S1d1ba.1d165.1d16f 2aV 15X 46V 7aX 14V cX 14V cX 57V",
   "9X 19V 87X 1aN1d39f 1aN1d3b9 1aN1d3d3 7N1d3ed 1X 12N1d3ed 1aN1d407 1aN1d421 1N1d43b 1X",
   "2N1d43b 2X 1N1d43b 2X 2N1d43b 2X 4N1d43b 1X 8N1d43b 4N1d455 1X 1N1d455 1X 7N1d455 1X bN1d455",
   "1aN1d46f 1aN1d489 2N1d4a3 1X 4N1d4a3 2X 8N1d4a3 1X 7N1d4a3 1X 1aN1d4bd 2N1d4d7 1X 4N1d4d7 1X",
   "5N1d4d7 1X 1N1d4d7 3X 7N1d4d7 1X 1aN1d4f1 1aN1d50b 1aN1d525 1aN1d53f 1aN1d559 1aN1d573",
   "1aN1d58d 1aN1d5a7 1aN1d5c1 1aN1d5db 1aN1d5f5 1aN1d60f 1aN1d629 1N1d573 1N1d46e 2X 11N1d2f7",
   "1N1d301 7N1d2f7 1N1b4ba 11N1d311 1N1d310 7N1d311 1N1b4d9 1N1d327 1N1d325 1N1d324 1N1d319",
   "1N1d31f 1N1d321 11N1d331 1N1d33b 7N1d331 1N1b4f4 11N1d34b 1N1d34a 7N1d34b 1N1b513 1N1d361",
   "1N1d35f 1N1d35e 1N1d353 1N1d359 1N1d35b 11N1d36b 1N1d375 7N1d36b 1N1b52e 11N1d385 1N1d384",
   "7N1d385 1N1b54d 1N1d39b 1N1d399 1N1d398 1N1d38d 1N1d393 1N1d395 11N1d3a5 1N1d3af 7N1d3a5",
   "1N1b568 11N1d3bf 1N1d3be 7N1d3bf 1N1b587 1N1d3d5 1N1d3d3 1N1d3d2 1N1d3c7 1N1d3cd 1N1d3cf",
   "11N1d3df 1N1d3e9 7N1d3df 1N1b5a2 11N1d3f9 1N1d3f8 7N1d3f9 1N1b5c1 1N1d40f 1N1d40d 1N1d40c",
   "1N1d401 1N1d407 1N1d409 1N1d3ed 1N1d3ee 2X aN1d79e aN1d7a8 aN1d7b2 aN1d7bc aN1d7c6 28cV fX 5V",
   "1X fV 450X 1fV 6X 6V d5X 7V 1X 11V 2X 7V 1X 2V 1X 5V 5X 9N1dc00 3N1dbff bN1dbfe 1N1dbfc",
   "2N1dbfb 1N139c1 1N1db72 1N1dbf6 1N1dbf5 1N1db65 1N1dba0 1N1db81 9N1dc21 2N1dc20 2N1dc1e",
   "1N1dc1d 6N1dc1c 2N1dc1b 1N1dbd6 1N1dc12 1N1dc14 1N1dc0b 1N1dbc0 1N13a1b 1N1dbbc 21X 1V 70X",
   "2dV 3X eV 2X aV 4X 2V 140X 1fV 11X 3aV 5X 1V 1d0X 2aV 2e6X 7V 1X 4V 1X 2V 1X fV 1X c5V 2X 10V",
   "29X 22O22 2aV 4X aV 4X 2V 311X 44V 4cX 3dV c2X 2N1e7d9 1N1e7d6 1N1e7d4 1X 1N1e7bd 1N1e7d4",
   "1N1e7da 1N1e7d1 1N1e7bf 4N1e7c7 1N1e7db 1N1e7d6 1N1e7cf 1N1e7dc 1N1e7d0 1N1e7e2 1N1e7e0",
   "2N1e7eb 1N1e7e9 1N1e7e8 1N1e7e3 1N1e7e2 1N1e7e1 1N1e7ae 1N1e763 1N1e77d 1N1e7b0 1X 1N1e7f9",
   "1N1e7f6 1X 1N1e7dd 2X 1N1e7fa 1X 1N1e7df 4N1e7e7 1N1e7fb 1N1e7f6 1N1e7ef 1N1e7fc 1N1e7f0 1X",
   "1N1e800 2N1e80b 1N1e809 1X 1N1e803 1X 1N1e801 6X 1N1e816 4X 1N1e81a 1X 1N1e7ff 1X 1N1e807 1X",
   "1N1e807 1N1e81b 1N1e816 1X 1N1e81c 1N1e810 1X 1N1e820 2X 1N1e829 1X 1N1e823 1X 1N1e821 1X",
   "1N1e7a3 1X 1N1e7f0 1X 1N1e839 1N1e836 1X 1N1e81d 2X 1N1e83a 1N1e831 1N1e81f 1N1e827 1X",
   "2N1e827 1N1e83b 1N1e836 1N1e82f 1N1e83c 1N1e830 1X 1N1e840 2N1e84b 1N1e849 1X 1N1e843 1N1e842",
   "1N1e841 1N1e80e 1X 1N1e7dd 1X 2N1e859 1N1e856 1N1e854 2N1e83d 1N1e854 1N1e85a 1N1e851 1N1e83f",
   "1X 3N1e847 1N1e85b 1N1e856 1N1e84f 1N1e85c 1N1e850 1N1e862 1N1e860 2N1e86b 1N1e869 1N1e868",
   "1N1e863 1N1e862 1N1e861 5X 1N1e879 1N1e876 1N1e874 1X 1N1e85d 1N1e874 1N1e87a 1N1e871 1N1e85f",
   "1X 3N1e867 1N1e87b 1N1e876 1N1e86f 1N1e87c 1N1e870 1N1e882 1N1e880 2N1e88b 1N1e889 1N1e888",
   "1N1e883 1N1e882 1N1e881 34X 2V 10eX 2cV 4X 64V cX fV 2X fV 1X fV 1X 25V bX 1S30.2c 1S31.2c",
   "1S32.2c 1S33.2c 1S34.2c 1S35.2c 1S36.2c 1S37.2c 1S38.2c 1S39.2c 5V 1S28.61.29 1S28.62.29",
   "1S28.63.29 1S28.64.29 1S28.65.29 1S28.66.29 1S28.67.29 1S28.68.29 1S28.69.29 1S28.6a.29",
   "1S28.6b.29 1S28.6c.29 1S28.6d.29 1S28.6e.29 1S28.6f.29 1S28.70.29 1S28.71.29 1S28.72.29",
   "1S28.73.29 1S28.74.29 1S28.75.29 1S28.76.29 1S28.77.29 1S28.78.29 1S28.79.29 1S28.7a.29",
   "1S3014.73.3015 1N1f0c8 1N1f0ba 1S63.64 1S77.7a 1V 1aN1f0cf 1S68.76 1S6d.76 1S73.64 1S73.73",
   "1S70.70.76 1S77.63 1aV 1S6d.63 1S6d.64 1S6d.72 23V 1S64.6a 1dV 38X 1aV 1S307b.304b",
   "1S30b3.30b3 1N1c14d dX 1N18fc5 1N196ba 1N19e46 1N1c14c 1N1a388 1N198fb 1N16833 1N198ee",
   "1N1a374 1N18bf9 1N180f9 1N18c82 1N19fcf 1N19291 1N1a091 1N18c6f 1N1a003 1N174df 1N17d03",
   "1N1657a 1N19934 1N19dec 1N18312 1N18f92 1N18ed3 1N1a429 1N1a421 1N161e1 1N19446 1N1a400",
   "1N19e3b 1N18f28 1N164c0 1N18fde 1N178b1 1N177b9 1N19e2c 1N183b5 1N18b2d 1N18b2f 1N17d05",
   "1N19fc7 1N19c84 1N160ee 4X 1S3014.672c.3015 1S3014.4e09.3015 1S3014.4e8c.3015",
   "1S3014.5b89.3015 1S3014.70b9.3015 1S3014.6253.3015 1S3014.76d7.3015 1S3014.52dd.3015",
   "1S3014.6557.3015 7X 1N192b9 1N19e62 eX 6V 9aX 3d8V 4X 11V 3X dV 3X 77V 4X 5fV 6X cV 4X 1V fX",
   "cV 4X 38V 8X aV 6X 28V 8X 1eV 2X 2V 4eX 154V cX eV 2X dV 3X 9V 7X 2eV 1X 7V 8X eV 4X 9V 7X 9V",
   "7X 93V 1X 37V 25X aN1fbc0 406X a6e0V 20X 103aV 6X deV 2X 1682V eX 1d31V fX 26eV 9a2X 1N2a9c3",
   "1N2a9c9 1N2a9c1 1Nf6e1 1N2a8a4 1N2a857 1N2a84b 1N2a805 1N2a78e 1N2a770 1N2a723 1N2a73c",
   "1N2c36e 1Nf1d3 1N2a6c1 1N2a6bb 1N2a6ac 1N2a69a 1Nf2f6 1N2c35a 1N2a6ad 1N2a688 1Nf2cb 1N2a680",
   "1N2a674 1N2a94d 1N2a66e 1N2a666 1N663d 1N2a628 1N2a61b 1N2c340 1N2a5e5 1N2a5db 1N2a5b0",
   "1N2a5ac 1N2c30f 1N2a55e 1N2a55d 1N2a543 1N2a52e 2N2a524 1N2a514 1N2a4e3 1N2a4dc 1N2a4d4",
   "1N2a4bc 1N2a4b3 1N2a4b2 1N2a4b3 1N2a4b4 1Nee08 1N287c5 1N2a46c 1N2a458 1Necd5 1N2a44e 1N2a449",
   "1N2a435 1N2a39e 1N2a405 1N2a3f6 1N2a3d7 1N2a39e 1N2a34b 1N2a332 1N2a2f0 1N2a2e1 1N2a2c1",
   "1N2a2c2 1N2a2ae 1N2a29d 1N2a296 1N2a288 1N2a135 1N2a246 1N2a136 1N2a1fd 1N2a1db 1N2a649",
   "1N29f63 1N2a084 1N2a05f 1N2a047 1N2a0ca 1N2a024 1N2a026 1N29fac 1Ne375 1N29f68 1N29f64",
   "1N29f56 1N29f43 1N29f3c 1N29efd 1Ne1b8 1Ne177 1N29e76 1N29e48 1N29e3d 1N29e8d 1N29e00 1N2c179",
   "1X 1N29d61 1N29d2c 1N29d2d 1Ndea4 1N29caa 1N29c96 1N29c88 1N29c7d 1Ndd59 1N29c73 1N29c6d 1X",
   "1N29c53 1N2c0f5 1N29c17 1N29c0a 1N29bb9 1N29bed 1Nda97 1N29b39 1Nda97 1N29b10 1N29b14 1N29b04",
   "2N29aa0 1N2c054 1N29a87 1N29a5d 1N29a49 1N29a1e 1N2c026 1Nd706 1N2c00e 1N299db 1N299d9",
   "1N299d7 1N299c4 1N54fd 1N29992 1Nd560 1Nd561 1N27692 1N29972 1N29973 1N2bfcf 1Nc5df 1N96be",
   "1N29937 1N2992f 1N2bfb8 1N29902 1N298d0 1N298c7 1N298a6 1N2981f 1N2bf67 1N2bf86 1N2980f",
   "1Nd1d0 1N297de 1N2975e 1N2975b 1N2975a 1N2975d 1N29730 1N2971d 1N296fa 1N29709 1N296ff",
   "1N296d1 1N296be 1N296bb 1N296a2 1N29698 1N29657 1N29604 1N295e2 1N29567 1Ncdac 1N2957c",
   "1N295be 1N29553 1N29539 1N294d9 1Ncccd 1N2949d 1N294fb 1N29518 1N2be94 1N2945a 1N29446",
   "1N29428 1N2944f 1N2be5b 1N29379 1N2935d 1Nc8c0 1N292e8 1N291d4 1N29284 1N2bdb5 1N2923e",
   "1N2bdc8 1N2bded 1N2a740 1N2a73e 1N291d4 1N29239 1N27829 1N2b4fe 1N291c1 1N291be 1N291b9",
   "1N2917d 1N29189 1Nc51a 1N2bd95 1N290e5 1N2915b 1N2908f 1N2905d 1Nc476 1N29056 1N290c6 1N28fd2",
   "1N2bd4a 1N28fa6 1N28f46 1N28f00 1N28e43 1Nc249 1N28e12 1N2bcd6 1N28dce 1Nc049 1N28d9d 1N2bca4",
   "1N28d81 1N28d55 2N28d3b 1Nbe6a 1Ndbed 1Nbdff 1N28cac 1Nbc3f 1N28c3d 1N28c30 1N28c97 1N28be9",
   "1N28bc2 1N28b8a 1N28bc1 1N28b9a 1N28b8c 1N28b80 1Nbbe8 1N28bd3 1N28ad9 1N28a9b 1N2bbd7",
   "1N28a40 1N28a45 1Nba3c 1N28b15 1N289a1 1Nb9b2 1Nb983 1N2894c 1N288da 1N288f6 1N288fa 1N2bb80",
   "1N288cd 1N2889b 1N288a2 1N2886d 1Nf3f6 1N287d7 1Nb6ba 1N28782 1X 1N286f8 1N286ec 1N286d2",
   "1Nb31b 1N286a4 1N28690 1Nb1f1 1Nb113 1N285ae 1N2859e 1N2ba7e 1N28586 1N2ba74 1N2ba75 1N284e7",
   "1N284d3 1N284bf 1N284ac 1N28468 1N2ba18 1N28410 1Nacff 1N283f8 1Naca5 1N283c8 1Nd79a 1N2832a",
   "1Na99a 1Na984 1Na8f9 1N2b942 1N2b937 1N2824c 1Na84e 1Na850 1Na82a 1Na811 2N28227 1N28228",
   "1N281fe 1N2b910 1N281bf 1N2b905 1N2b8b6 1Na530 1N28100 1N280c3 1N28084 1N2b86e 1Na32c 1N27ffd",
   "1Na2ba 1Na290 1N27fc7 1N27f6c 1N2b829 1N27f19 1N27f10 1N27f0c 1N9fe0 1N9eb6 1N9eb7 1X 1N2b75e",
   "1N9db6 1N27d9c 1N27d9a 1N2b73d 1N9ce5 1N27c94 1N2b6c7 1N27c80 1N27c86 1N27c6a 1N99e5 1N27c09",
   "1N2b66c 1N27ba7 1N27b6d 1N27b2b 1N2b63d 1N974a 1N972c 1N2b61b 1N969c 1N279fc 1N9639 1N279e3",
   "1N2797f 1N27975 1N94a1 1N9459 1N2791d 1N93d6 1N2790f 1Nc621 1N2b5ac 1N278d0 1N27880 1N2b579",
   "1N27847 1N29ed1 1N91e0 1N91d3 1Nc5f6 1Nc5ee 1N2778a 1N27788 1N269ef 1N2b523 1N276fe 1N27705",
   "1N276f4 1N2a6df 1N276e2 1N276e1 1N276d8 1N276b0 1N8e5b 1N276b3 1N2767c 1N27637 1N275ee",
   "1N27679 1N275e0 1N275b7 1N27548 1N2764d 1N275d7 1N275d6 1N275c7 1N8d6e 1N8c3a 1N8cd1 1N2b47c",
   "1N274b7 1N274b6 1N27494 1N85e1 1N27448 1N8a81 1N2b451 1N2b44e 1N89ff 1N88df 1N2b447 1N27363",
   "1N27358 1N2734e 1N2734d 1N2730e 1N27330 1N272ab 1N272d8 1N27242 1N27294 1N27252 1N27238 1X",
   "1N271df 1N271c0 1N2b3c9 1N27163 1N27161 1N835e 1N270ef 1N270e9 1N2b393 1N270cf 1N2c50f 1N811d",
   "1N8066 1N2b30f 1N2b307 1N26f2f 1N26ee3 1N26e47 1N26d7d 1N7d2b 1N26d29 1N26d14 1N26cbb 1N26c60",
   "1N7aa9 1Nf1d5 1N26c0f 1N26c1f 1N26bec 1Nf0ff 1N26b0a 1N26aa7 1N740e 1N73f4 1N2694e 1N268f2",
   "1N268d3 1N72b7 1N268cb 1N267af 2N26711 1N2676e 1N265f2 1N265d7 1N6df3 1N26463 1N2b05a 1N26439",
   "1N6c7a 1N2b00c 1N26330 1N29c42 1N262d2 1N68b1 1N67dd 1N2af8a 1N2af83 1N2621a 1N65f1 1N2af4a",
   "1N6567 1N261f3 1N261f4 1N261d7 1N644b 1N26120 1N2aed0 1N260db 1N2605e 1N26044 1N26009 1N2ae3a",
   "1N5ed9 1N25ef8 1N25dcb 1N25d0f 1N2ad3f 1N2ad21 1N25ca8 1N5942 1N2ad19 1N590d 1N5805 1N5783",
   "1N25b5a 1N2acc0 1N25b1e 1N25b1a 1N25b14 1N25b0b 1N25b05 1N25ae1 1N541d 5e2X 134bV 5X 1060V",
   "add50X f0I 2fe10X"]

/-- The mapping of every code point. -/
def mapping : List String := mappingPart1 ++ mappingPart2

end Switchyard.Idna.Table
