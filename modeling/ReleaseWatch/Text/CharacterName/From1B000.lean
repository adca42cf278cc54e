/-!
# Character names from 1B000

Names of the characters of Unicode 14 from code point 1B000 up to, but without, 1D000, as name
lists write them. Ideographs and syllables whose names are made by a rule are left out.
-/

namespace ReleaseWatch

namespace CharacterName

/-- The names from code point 1B000 on. -/
def from1B000 : List String :=
  ["@1B000;0KATAKANA LETTER ARCHAIC E;0HIRAGANA LETTER ARCHAIC YE;0HENTAIGANA LETTER A-1;2A-2;2A-3",
   "2A-WO;2I-1;2I-2;2I-3;2I-4;2U-1;2U-2;2U-3;2U-4;2U-5;2E-2;2E-3;2E-4;2E-5;2E-6;2O-1;2O-2;2O-3",
   "2KA-1;2KA-2;2KA-3;2KA-4;2KA-5;2KA-6;2KA-7;2KA-8;2KA-9;2KA-10;2KA-11;2KA-KE;2KI-1;2KI-2;2KI-3",
   "2KI-4;2KI-5;2KI-6;2KI-7;2KI-8;2KU-1;2KU-2;2KU-3;2KU-4;2KU-5;2KU-6;2KU-7;2KE-1;2KE-2;2KE-3",
   "2KE-4;2KE-5;2KE-6;2KO-1;2KO-2;2KO-3;2KO-KI;2SA-1;2SA-2;2SA-3;2SA-4;2SA-5;2SA-6;2SA-7;2SA-8",
   "2SI-1;2SI-2;2SI-3;2SI-4;2SI-5;2SI-6;2SU-1;2SU-2;2SU-3;2SU-4;2SU-5;2SU-6;2SU-7;2SU-8;2SE-1",
   "2SE-2;2SE-3;2SE-4;2SE-5;2SO-1;2SO-2;2SO-3;2SO-4;2SO-5;2SO-6;2SO-7;2TA-1;2TA-2;2TA-3;2TA-4",
   "2TI-1;2TI-2;2TI-3;2TI-4;2TI-5;2TI-6;2TI-7;2TU-1;2TU-2;2TU-3;2TU-4;2TU-TO;2TE-1;2TE-2;2TE-3",
   "2TE-4;2TE-5;2TE-6;2TE-7;2TE-8;2TE-9;2TO-1;2TO-2;2TO-3;2TO-4;2TO-5;2TO-6;2TO-RA;2NA-1;2NA-2",
   "2NA-3;2NA-4;2NA-5;2NA-6;2NA-7;2NA-8;2NA-9;2NI-1;2NI-2;2NI-3;2NI-4;2NI-5;2NI-6;2NI-7;2NI-TE",
   "2NU-1;2NU-2;2NU-3;2NE-1;2NE-2;2NE-3;2NE-4;2NE-5;2NE-6;2NE-KO;2NO-1;2NO-2;2NO-3;2NO-4;2NO-5",
   "2HA-1;2HA-2;2HA-3;2HA-4;2HA-5;2HA-6;2HA-7;2HA-8;2HA-9;2HA-10;2HA-11;2HI-1;2HI-2;2HI-3;2HI-4",
   "2HI-5;2HI-6;2HI-7;2HU-1;2HU-2;2HU-3;2HE-1;2HE-2;2HE-3;2HE-4;2HE-5;2HE-6;2HE-7;2HO-1;2HO-2",
   "2HO-3;2HO-4;2HO-5;2HO-6;2HO-7;2HO-8;2MA-1;2MA-2;2MA-3;2MA-4;2MA-5;2MA-6;2MA-7;2MI-1;2MI-2",
   "2MI-3;2MI-4;2MI-5;2MI-6;2MI-7;2MU-1;2MU-2;2MU-3;2MU-4;2ME-1;2ME-2;2ME-MA;2MO-1;2MO-2;2MO-3",
   "2MO-4;2MO-5;2MO-6;2YA-1;2YA-2;2YA-3;2YA-4;2YA-5;2YA-YO;2YU-1;2YU-2;2YU-3;2YU-4;2YO-1;2YO-2",
   "2YO-3;2YO-4;2YO-5;2YO-6;2RA-1;2RA-2;2RA-3;2RA-4;2RI-1;2RI-2;2RI-3;2RI-4;2RI-5;2RI-6;2RI-7",
   "2RU-1;2RU-2;2RU-3;2RU-4;2RU-5;2RU-6;2RE-1;2RE-2;2RE-3;2RE-4;2RO-1;2RO-2;2RO-3;2RO-4;2RO-5",
   "2RO-6;2WA-1;2WA-2;2WA-3;2WA-4;2WA-5;2WI-1;2WI-2;2WI-3;2WI-4;2WI-5;2WE-1;2WE-2;2WE-3;2WE-4",
   "2WO-1;2WO-2;2WO-3;2WO-4;2WO-5;2WO-6;2WO-7;2N-MU-MO-1;2N-MU-MO-2;0HIRAGANA LETTER ARCHAIC WU",
   "0KATAKANA LETTER ARCHAIC YI;3YE;3WU;@1B150;0HIRAGANA LETTER SMALL WI;3WE;3WO;@1B164",
   "0KATAKANA LETTER SMALL WI;3WE;3WO;3N;@1B170;0NUSHU CHARACTER-1B170;1CHARACTER-1B171",
   "1CHARACTER-1B172;1CHARACTER-1B173;1CHARACTER-1B174;1CHARACTER-1B175;1CHARACTER-1B176",
   "1CHARACTER-1B177;1CHARACTER-1B178;1CHARACTER-1B179;1CHARACTER-1B17A;1CHARACTER-1B17B",
   "1CHARACTER-1B17C;1CHARACTER-1B17D;1CHARACTER-1B17E;1CHARACTER-1B17F;1CHARACTER-1B180",
   "1CHARACTER-1B181;1CHARACTER-1B182;1CHARACTER-1B183;1CHARACTER-1B184;1CHARACTER-1B185",
   "1CHARACTER-1B186;1CHARACTER-1B187;1CHARACTER-1B188;1CHARACTER-1B189;1CHARACTER-1B18A",
   "1CHARACTER-1B18B;1CHARACTER-1B18C;1CHARACTER-1B18D;1CHARACTER-1B18E;1CHARACTER-1B18F",
   "1CHARACTER-1B190;1CHARACTER-1B191;1CHARACTER-1B192;1CHARACTER-1B193;1CHARACTER-1B194",
   "1CHARACTER-1B195;1CHARACTER-1B196;1CHARACTER-1B197;1CHARACTER-1B198;1CHARACTER-1B199",
   "1CHARACTER-1B19A;1CHARACTER-1B19B;1CHARACTER-1B19C;1CHARACTER-1B19D;1CHARACTER-1B19E",
   "1CHARACTER-1B19F;1CHARACTER-1B1A0;1CHARACTER-1B1A1;1CHARACTER-1B1A2;1CHARACTER-1B1A3",
   "1CHARACTER-1B1A4;1CHARACTER-1B1A5;1CHARACTER-1B1A6;1CHARACTER-1B1A7;1CHARACTER-1B1A8",
   "1CHARACTER-1B1A9;1CHARACTER-1B1AA;1CHARACTER-1B1AB;1CHARACTER-1B1AC;1CHARACTER-1B1AD",
   "1CHARACTER-1B1AE;1CHARACTER-1B1AF;1CHARACTER-1B1B0;1CHARACTER-1B1B1;1CHARACTER-1B1B2",
   "1CHARACTER-1B1B3;1CHARACTER-1B1B4;1CHARACTER-1B1B5;1CHARACTER-1B1B6;1CHARACTER-1B1B7",
   "1CHARACTER-1B1B8;1CHARACTER-1B1B9;1CHARACTER-1B1BA;1CHARACTER-1B1BB;1CHARACTER-1B1BC",
   "1CHARACTER-1B1BD;1CHARACTER-1B1BE;1CHARACTER-1B1BF;1CHARACTER-1B1C0;1CHARACTER-1B1C1",
   "1CHARACTER-1B1C2;1CHARACTER-1B1C3;1CHARACTER-1B1C4;1CHARACTER-1B1C5;1CHARACTER-1B1C6",
   "1CHARACTER-1B1C7;1CHARACTER-1B1C8;1CHARACTER-1B1C9;1CHARACTER-1B1CA;1CHARACTER-1B1CB",
   "1CHARACTER-1B1CC;1CHARACTER-1B1CD;1CHARACTER-1B1CE;1CHARACTER-1B1CF;1CHARACTER-1B1D0",
   "1CHARACTER-1B1D1;1CHARACTER-1B1D2;1CHARACTER-1B1D3;1CHARACTER-1B1D4;1CHARACTER-1B1D5",
   "1CHARACTER-1B1D6;1CHARACTER-1B1D7;1CHARACTER-1B1D8;1CHARACTER-1B1D9;1CHARACTER-1B1DA",
   "1CHARACTER-1B1DB;1CHARACTER-1B1DC;1CHARACTER-1B1DD;1CHARACTER-1B1DE;1CHARACTER-1B1DF",
   "1CHARACTER-1B1E0;1CHARACTER-1B1E1;1CHARACTER-1B1E2;1CHARACTER-1B1E3;1CHARACTER-1B1E4",
   "1CHARACTER-1B1E5;1CHARACTER-1B1E6;1CHARACTER-1B1E7;1CHARACTER-1B1E8;1CHARACTER-1B1E9",
   "1CHARACTER-1B1EA;1CHARACTER-1B1EB;1CHARACTER-1B1EC;1CHARACTER-1B1ED;1CHARACTER-1B1EE",
   "1CHARACTER-1B1EF;1CHARACTER-1B1F0;1CHARACTER-1B1F1;1CHARACTER-1B1F2;1CHARACTER-1B1F3",
   "1CHARACTER-1B1F4;1CHARACTER-1B1F5;1CHARACTER-1B1F6;1CHARACTER-1B1F7;1CHARACTER-1B1F8",
   "1CHARACTER-1B1F9;1CHARACTER-1B1FA;1CHARACTER-1B1FB;1CHARACTER-1B1FC;1CHARACTER-1B1FD",
   "1CHARACTER-1B1FE;1CHARACTER-1B1FF;1CHARACTER-1B200;1CHARACTER-1B201;1CHARACTER-1B202",
   "1CHARACTER-1B203;1CHARACTER-1B204;1CHARACTER-1B205;1CHARACTER-1B206;1CHARACTER-1B207",
   "1CHARACTER-1B208;1CHARACTER-1B209;1CHARACTER-1B20A;1CHARACTER-1B20B;1CHARACTER-1B20C",
   "1CHARACTER-1B20D;1CHARACTER-1B20E;1CHARACTER-1B20F;1CHARACTER-1B210;1CHARACTER-1B211",
   "1CHARACTER-1B212;1CHARACTER-1B213;1CHARACTER-1B214;1CHARACTER-1B215;1CHARACTER-1B216",
   "1CHARACTER-1B217;1CHARACTER-1B218;1CHARACTER-1B219;1CHARACTER-1B21A;1CHARACTER-1B21B",
   "1CHARACTER-1B21C;1CHARACTER-1B21D;1CHARACTER-1B21E;1CHARACTER-1B21F;1CHARACTER-1B220",
   "1CHARACTER-1B221;1CHARACTER-1B222;1CHARACTER-1B223;1CHARACTER-1B224;1CHARACTER-1B225",
   "1CHARACTER-1B226;1CHARACTER-1B227;1CHARACTER-1B228;1CHARACTER-1B229;1CHARACTER-1B22A",
   "1CHARACTER-1B22B;1CHARACTER-1B22C;1CHARACTER-1B22D;1CHARACTER-1B22E;1CHARACTER-1B22F",
   "1CHARACTER-1B230;1CHARACTER-1B231;1CHARACTER-1B232;1CHARACTER-1B233;1CHARACTER-1B234",
   "1CHARACTER-1B235;1CHARACTER-1B236;1CHARACTER-1B237;1CHARACTER-1B238;1CHARACTER-1B239",
   "1CHARACTER-1B23A;1CHARACTER-1B23B;1CHARACTER-1B23C;1CHARACTER-1B23D;1CHARACTER-1B23E",
   "1CHARACTER-1B23F;1CHARACTER-1B240;1CHARACTER-1B241;1CHARACTER-1B242;1CHARACTER-1B243",
   "1CHARACTER-1B244;1CHARACTER-1B245;1CHARACTER-1B246;1CHARACTER-1B247;1CHARACTER-1B248",
   "1CHARACTER-1B249;1CHARACTER-1B24A;1CHARACTER-1B24B;1CHARACTER-1B24C;1CHARACTER-1B24D",
   "1CHARACTER-1B24E;1CHARACTER-1B24F;1CHARACTER-1B250;1CHARACTER-1B251;1CHARACTER-1B252",
   "1CHARACTER-1B253;1CHARACTER-1B254;1CHARACTER-1B255;1CHARACTER-1B256;1CHARACTER-1B257",
   "1CHARACTER-1B258;1CHARACTER-1B259;1CHARACTER-1B25A;1CHARACTER-1B25B;1CHARACTER-1B25C",
   "1CHARACTER-1B25D;1CHARACTER-1B25E;1CHARACTER-1B25F;1CHARACTER-1B260;1CHARACTER-1B261",
   "1CHARACTER-1B262;1CHARACTER-1B263;1CHARACTER-1B264;1CHARACTER-1B265;1CHARACTER-1B266",
   "1CHARACTER-1B267;1CHARACTER-1B268;1CHARACTER-1B269;1CHARACTER-1B26A;1CHARACTER-1B26B",
   "1CHARACTER-1B26C;1CHARACTER-1B26D;1CHARACTER-1B26E;1CHARACTER-1B26F;1CHARACTER-1B270",
   "1CHARACTER-1B271;1CHARACTER-1B272;1CHARACTER-1B273;1CHARACTER-1B274;1CHARACTER-1B275",
   "1CHARACTER-1B276;1CHARACTER-1B277;1CHARACTER-1B278;1CHARACTER-1B279;1CHARACTER-1B27A",
   "1CHARACTER-1B27B;1CHARACTER-1B27C;1CHARACTER-1B27D;1CHARACTER-1B27E;1CHARACTER-1B27F",
   "1CHARACTER-1B280;1CHARACTER-1B281;1CHARACTER-1B282;1CHARACTER-1B283;1CHARACTER-1B284",
   "1CHARACTER-1B285;1CHARACTER-1B286;1CHARACTER-1B287;1CHARACTER-1B288;1CHARACTER-1B289",
   "1CHARACTER-1B28A;1CHARACTER-1B28B;1CHARACTER-1B28C;1CHARACTER-1B28D;1CHARACTER-1B28E",
   "1CHARACTER-1B28F;1CHARACTER-1B290;1CHARACTER-1B291;1CHARACTER-1B292;1CHARACTER-1B293",
   "1CHARACTER-1B294;1CHARACTER-1B295;1CHARACTER-1B296;1CHARACTER-1B297;1CHARACTER-1B298",
   "1CHARACTER-1B299;1CHARACTER-1B29A;1CHARACTER-1B29B;1CHARACTER-1B29C;1CHARACTER-1B29D",
   "1CHARACTER-1B29E;1CHARACTER-1B29F;1CHARACTER-1B2A0;1CHARACTER-1B2A1;1CHARACTER-1B2A2",
   "1CHARACTER-1B2A3;1CHARACTER-1B2A4;1CHARACTER-1B2A5;1CHARACTER-1B2A6;1CHARACTER-1B2A7",
   "1CHARACTER-1B2A8;1CHARACTER-1B2A9;1CHARACTER-1B2AA;1CHARACTER-1B2AB;1CHARACTER-1B2AC",
   "1CHARACTER-1B2AD;1CHARACTER-1B2AE;1CHARACTER-1B2AF;1CHARACTER-1B2B0;1CHARACTER-1B2B1",
   "1CHARACTER-1B2B2;1CHARACTER-1B2B3;1CHARACTER-1B2B4;1CHARACTER-1B2B5;1CHARACTER-1B2B6",
   "1CHARACTER-1B2B7;1CHARACTER-1B2B8;1CHARACTER-1B2B9;1CHARACTER-1B2BA;1CHARACTER-1B2BB",
   "1CHARACTER-1B2BC;1CHARACTER-1B2BD;1CHARACTER-1B2BE;1CHARACTER-1B2BF;1CHARACTER-1B2C0",
   "1CHARACTER-1B2C1;1CHARACTER-1B2C2;1CHARACTER-1B2C3;1CHARACTER-1B2C4;1CHARACTER-1B2C5",
   "1CHARACTER-1B2C6;1CHARACTER-1B2C7;1CHARACTER-1B2C8;1CHARACTER-1B2C9;1CHARACTER-1B2CA",
   "1CHARACTER-1B2CB;1CHARACTER-1B2CC;1CHARACTER-1B2CD;1CHARACTER-1B2CE;1CHARACTER-1B2CF",
   "1CHARACTER-1B2D0;1CHARACTER-1B2D1;1CHARACTER-1B2D2;1CHARACTER-1B2D3;1CHARACTER-1B2D4",
   "1CHARACTER-1B2D5;1CHARACTER-1B2D6;1CHARACTER-1B2D7;1CHARACTER-1B2D8;1CHARACTER-1B2D9",
   "1CHARACTER-1B2DA;1CHARACTER-1B2DB;1CHARACTER-1B2DC;1CHARACTER-1B2DD;1CHARACTER-1B2DE",
   "1CHARACTER-1B2DF;1CHARACTER-1B2E0;1CHARACTER-1B2E1;1CHARACTER-1B2E2;1CHARACTER-1B2E3",
   "1CHARACTER-1B2E4;1CHARACTER-1B2E5;1CHARACTER-1B2E6;1CHARACTER-1B2E7;1CHARACTER-1B2E8",
   "1CHARACTER-1B2E9;1CHARACTER-1B2EA;1CHARACTER-1B2EB;1CHARACTER-1B2EC;1CHARACTER-1B2ED",
   "1CHARACTER-1B2EE;1CHARACTER-1B2EF;1CHARACTER-1B2F0;1CHARACTER-1B2F1;1CHARACTER-1B2F2",
   "1CHARACTER-1B2F3;1CHARACTER-1B2F4;1CHARACTER-1B2F5;1CHARACTER-1B2F6;1CHARACTER-1B2F7",
   "1CHARACTER-1B2F8;1CHARACTER-1B2F9;1CHARACTER-1B2FA;1CHARACTER-1B2FB;@1BC00;0DUPLOYAN LETTER H",
   "2X;2P;2T;2F;2K;2L;2B;2D;2V;2G;2R;2P N;2D S;2F N;2K M;2R S;2TH;2SLOAN DH;2DH;2KK;2SLOAN J;2HL",
   "2LH;2RH;2M;2N;2J;2S;2M N;2N M;2J M;2S J;2M WITH DOT;2N WITH DOT;2J WITH DOT",
   "4DOTS INSIDE AND ABOVE;2S WITH DOT;5BELOW;2M S;2N S;2J S;2S S;2M N S;2N M S;2J M S;2S J S",
   "2J S WITH DOT;3N;4S;2S T;4R;3P;4R;2T S;3R S;2W;2WH;2W R;2S N;3M;2K R S;2G R S;2S K;4R;2A",
   "2SLOAN OW;2OA;2O;2AOU;2I;2E;2IE;2SHORT I;2UI;2EE;2SLOAN EH;2ROMANIAN I;2SLOAN EE;2LONG I;2YE",
   "2U;2EU;2XW;2U N;2LONG U;2ROMANIAN U;2UH;2SLOAN U;2OOH;2OW;2OU;2WA;2WO;2WI;2WEI;2WOW;2NASAL U",
   "3O;3I;3A;2PERNIN AN;3AM;2SLOAN EN;3AN;3ON;2VOCALIC M;@1BC70;1AFFIX LEFT HORIZONTAL SECANT",
   "2MID HORIZONTAL SECANT;2RIGHT HORIZONTAL SECANT;2LOW VERTICAL SECANT;2MID VERTICAL SECANT",
   "2HIGH VERTICAL SECANT;2ATTACHED SECANT;3LEFT-TO-RIGHT SECANT;3TANGENT;3TAIL;3E HOOK;3I HOOK",
   "3TANGENT HOOK;@1BC80;2HIGH ACUTE;3TIGHT ACUTE;3GRAVE;3LONG GRAVE;3DOT;3CIRCLE;3LINE;3WAVE",
   "3VERTICAL;@1BC90;2LOW ACUTE;3TIGHT ACUTE;3GRAVE;3LONG GRAVE;3DOT;3CIRCLE;3LINE;3WAVE;3VERTICAL",
   "3ARROW;@1BC9C;1SIGN O WITH CROSS;1THICK LETTER SELECTOR;1DOUBLE MARK",
   "1PUNCTUATION CHINOOK FULL STOP;0SHORTHAND FORMAT LETTER OVERLAP;2CONTINUING OVERLAP;2DOWN STEP",
   "2UP STEP;@1CF00;0ZNAMENNY COMBINING MARK GORAZDO NIZKO S KRYZHEM ON LEFT",
   "3NIZKO S KRYZHEM ON LEFT;3TSATA ON LEFT;3GORAZDO NIZKO ON LEFT;3NIZKO ON LEFT;3SREDNE ON LEFT",
   "3MALO POVYSHE ON LEFT;3POVYSHE ON LEFT;3VYSOKO ON LEFT;3MALO POVYSHE S KHOKHLOM ON LEFT",
   "3POVYSHE S KHOKHLOM ON LEFT;3VYSOKO S KHOKHLOM ON LEFT;3GORAZDO NIZKO S KRYZHEM ON RIGHT",
   "3NIZKO S KRYZHEM ON RIGHT;3TSATA ON RIGHT;3GORAZDO NIZKO ON RIGHT;3NIZKO ON RIGHT",
   "3SREDNE ON RIGHT;3MALO POVYSHE ON RIGHT;3POVYSHE ON RIGHT;3VYSOKO ON RIGHT",
   "3MALO POVYSHE S KHOKHLOM ON RIGHT;3POVYSHE S KHOKHLOM ON RIGHT;3VYSOKO S KHOKHLOM ON RIGHT",
   "3TSATA S KRYZHEM;3MALO POVYSHE S KRYZHEM;3STRANNO MALO POVYSHE;3POVYSHE S KRYZHEM;4STRANNO",
   "3VYSOKO S KRYZHEM;3MALO POVYSHE STRANNO;3GORAZDO VYSOKO;3ZELO;3ON;3RAVNO;3TIKHAYA;3BORZAYA",
   "3UDARKA;3PODVERTKA;3LOMKA;3KUPNAYA;3KACHKA;3ZEVOK;3SKOBA;3RAZSEKA;3KRYZH ON LEFT;@1CF30",
   "2TONAL RANGE MARK MRACHNO;5SVETLO;5TRESVETLO;2MARK ZADERZHKA;3DEMESTVENNY ZADERZHKA;3OTSECHKA",
   "3PODCHASHIE;4WITH VERTICAL STROKE;3CHASHKA;4POLNAYA;3OBLACHKO;3SOROCHYA NOZHKA;3TOCHKA",
   "3DVOETOCHIE;2ATTACHING VERTICAL OMET;2MARK CURVED OMET;3KRYZH;2LOWER TONAL RANGE INDICATOR",
   "1PRIZNAK MODIFIER LEVEL-2;3LEVEL-3;3DIRECTION FLIP;3KRYZH;3ROG;@1CF50;1NEUME KRYUK;3TIKHY",
   "2PARAKLIT;2DVA V CHELNU;2KLYUCH;2ZANOZHEK;2STOPITSA;3S OCHKOM;2PEREVODKA;3NEPOSTOYANNAYA",
   "2STOPITSA WITH SOROCHYA NOZHKA;2CHELYUSTKA;2PALKA;2ZAPYATAYA;2GOLUBCHIK BORZY;3TIKHY;3MRACHNY",
   "3SVETLY;3TRESVETLY;2VRAKHIYA PROSTAYA;3MRACHNAYA;3SVETLAYA;3TRESVETLAYA;3KLYUCHEVAYA PROSTAYA",
   "4MRACHNAYA;4SVETLAYA;4TRESVETLAYA;2DOUBLE ZAPYATAYA;2REVERSED CHELYUSTKA;2DERBITSA;2KHAMILO",
   "2CHASHKA;2PODCHASHIE;2SKAMEYTSA MRACHNAYA;3SVETLAYA;3TRESVETLAYA;3TIKHAYA;2DEMESTVENNY KLYUCH",
   "2SKAMEYTSA KLYUCHEVAYA SVETLAYA;3KLYUCHENEPOSTOYANNAYA;3KLYUCHEVAYA TIKHAYA",
   "3DVOECHELNAYA PROSTAYA;4SVETLAYA;4NEPOSTOYANNAYA;4KLYUCHEVAYA;2SLOZHITIE;3S ZAPYATOY;3ZAKRYTOE",
   "3S KRYZHEM;2KRYZH;2ROG;2FITA;2KOBYLA;2ZMEYTSA;2STATYA;3S ZAPYATOY;4KRYZHEM;4ZAPYATOY I KRYZHEM",
   "4KRYZHEM I ZAPYATOY;3ZAKRYTAYA;4S ZAPYATOY;3S ROGOM;4DVUMYA ZAPYATYMI;4ZAPYATOY I PODCHASHIEM",
   "2POLKULIZMY;2STATYA NEPOSTOYANNAYA;2STRELA PROSTAYA;3MRACHNOTIKHAYA;3KRYZHEVAYA;3POLUPOVODNAYA",
   "3POVODNAYA;3NEPOSTOYANNAYA;3KLYUCHEPOVODNAYA;3KLYUCHENEPOSTOYANNAYA;3TIKHAYA PUTNAYA",
   "3DVOECHELNAYA;3DVOECHELNOKRYZHEVAYA;3DVOECHELNOPOVODNAYA;3DVOECHELNAYA KLYUCHEVAYA",
   "3DVOECHELNOPOVODNAYA KLYUCHEVAYA;3GROMNAYA WITH SINGLE ZAPYATAYA",
   "3GROMOPOVODNAYA WITH SINGLE ZAPYATAYA;3GROMNAYA;3GROMOPOVODNAYA;4WITH DOUBLE ZAPYATAYA",
   "3GROMOKRYZHEVAYA;4POVODNAYA;2MECHIK;3POVODNY;3KLYUCHEVOY;3KLYUCHEPOVODNY;3KLYUCHENEPOSTOYANNY",
   "2STRELA TRYASOGLASNAYA;3TRYASOPOVODNAYA;3TRYASOSTRELNAYA;2OSOKA;3SVETLAYA;3TRESVETLAYA",
   "3KRYUKOVAYA SVETLAYA;3KLYUCHEVAYA SVETLAYA;4NEPOSTOYANNAYA;2STRELA KRYUKOVAYA;4POVODNAYA",
   "4GROMNAYA WITH SINGLE ZAPYATAYA;4GROMOPOVODNAYA WITH SINGLE ZAPYATAYA;4GROMNAYA",
   "4GROMOPOVODNAYA;5WITH DOUBLE ZAPYATAYA;4GROMOKRYZHEVAYA;5POVODNAYA;4TRYASKA;2KUFISMA;2OBLAKO",
   "2DUDA;2NEMKA;2PAUK"]

end CharacterName

end ReleaseWatch
