/-!
# Character names from 20000

Names of the characters of Unicode 14 from code point 20000 up to, but without, 110000, as name
lists write them. Ideographs and syllables whose names are made by a rule are left out.
-/

namespace ReleaseWatch

namespace CharacterName

/-- The names from code point 20000 on. -/
def from20000 : List String :=
  ["@2F800;0CJK COMPATIBILITY IDEOGRAPH-2F800;2IDEOGRAPH-2F801;2IDEOGRAPH-2F802;2IDEOGRAPH-2F803",
   "2IDEOGRAPH-2F804;2IDEOGRAPH-2F805;2IDEOGRAPH-2F806;2IDEOGRAPH-2F807;2IDEOGRAPH-2F808",
   "2IDEOGRAPH-2F809;2IDEOGRAPH-2F80A;2IDEOGRAPH-2F80B;2IDEOGRAPH-2F80C;2IDEOGRAPH-2F80D",
   "2IDEOGRAPH-2F80E;2IDEOGRAPH-2F80F;2IDEOGRAPH-2F810;2IDEOGRAPH-2F811;2IDEOGRAPH-2F812",
   "2IDEOGRAPH-2F813;2IDEOGRAPH-2F814;2IDEOGRAPH-2F815;2IDEOGRAPH-2F816;2IDEOGRAPH-2F817",
   "2IDEOGRAPH-2F818;2IDEOGRAPH-2F819;2IDEOGRAPH-2F81A;2IDEOGRAPH-2F81B;2IDEOGRAPH-2F81C",
   "2IDEOGRAPH-2F81D;2IDEOGRAPH-2F81E;2IDEOGRAPH-2F81F;2IDEOGRAPH-2F820;2IDEOGRAPH-2F821",
   "2IDEOGRAPH-2F822;2IDEOGRAPH-2F823;2IDEOGRAPH-2F824;2IDEOGRAPH-2F825;2IDEOGRAPH-2F826",
   "2IDEOGRAPH-2F827;2IDEOGRAPH-2F828;2IDEOGRAPH-2F829;2IDEOGRAPH-2F82A;2IDEOGRAPH-2F82B",
   "2IDEOGRAPH-2F82C;2IDEOGRAPH-2F82D;2IDEOGRAPH-2F82E;2IDEOGRAPH-2F82F;2IDEOGRAPH-2F830",
   "2IDEOGRAPH-2F831;2IDEOGRAPH-2F832;2IDEOGRAPH-2F833;2IDEOGRAPH-2F834;2IDEOGRAPH-2F835",
   "2IDEOGRAPH-2F836;2IDEOGRAPH-2F837;2IDEOGRAPH-2F838;2IDEOGRAPH-2F839;2IDEOGRAPH-2F83A",
   "2IDEOGRAPH-2F83B;2IDEOGRAPH-2F83C;2IDEOGRAPH-2F83D;2IDEOGRAPH-2F83E;2IDEOGRAPH-2F83F",
   "2IDEOGRAPH-2F840;2IDEOGRAPH-2F841;2IDEOGRAPH-2F842;2IDEOGRAPH-2F843;2IDEOGRAPH-2F844",
   "2IDEOGRAPH-2F845;2IDEOGRAPH-2F846;2IDEOGRAPH-2F847;2IDEOGRAPH-2F848;2IDEOGRAPH-2F849",
   "2IDEOGRAPH-2F84A;2IDEOGRAPH-2F84B;2IDEOGRAPH-2F84C;2IDEOGRAPH-2F84D;2IDEOGRAPH-2F84E",
   "2IDEOGRAPH-2F84F;2IDEOGRAPH-2F850;2IDEOGRAPH-2F851;2IDEOGRAPH-2F852;2IDEOGRAPH-2F853",
   "2IDEOGRAPH-2F854;2IDEOGRAPH-2F855;2IDEOGRAPH-2F856;2IDEOGRAPH-2F857;2IDEOGRAPH-2F858",
   "2IDEOGRAPH-2F859;2IDEOGRAPH-2F85A;2IDEOGRAPH-2F85B;2IDEOGRAPH-2F85C;2IDEOGRAPH-2F85D",
   "2IDEOGRAPH-2F85E;2IDEOGRAPH-2F85F;2IDEOGRAPH-2F860;2IDEOGRAPH-2F861;2IDEOGRAPH-2F862",
   "2IDEOGRAPH-2F863;2IDEOGRAPH-2F864;2IDEOGRAPH-2F865;2IDEOGRAPH-2F866;2IDEOGRAPH-2F867",
   "2IDEOGRAPH-2F868;2IDEOGRAPH-2F869;2IDEOGRAPH-2F86A;2IDEOGRAPH-2F86B;2IDEOGRAPH-2F86C",
   "2IDEOGRAPH-2F86D;2IDEOGRAPH-2F86E;2IDEOGRAPH-2F86F;2IDEOGRAPH-2F870;2IDEOGRAPH-2F871",
   "2IDEOGRAPH-2F872;2IDEOGRAPH-2F873;2IDEOGRAPH-2F874;2IDEOGRAPH-2F875;2IDEOGRAPH-2F876",
   "2IDEOGRAPH-2F877;2IDEOGRAPH-2F878;2IDEOGRAPH-2F879;2IDEOGRAPH-2F87A;2IDEOGRAPH-2F87B",
   "2IDEOGRAPH-2F87C;2IDEOGRAPH-2F87D;2IDEOGRAPH-2F87E;2IDEOGRAPH-2F87F;2IDEOGRAPH-2F880",
   "2IDEOGRAPH-2F881;2IDEOGRAPH-2F882;2IDEOGRAPH-2F883;2IDEOGRAPH-2F884;2IDEOGRAPH-2F885",
   "2IDEOGRAPH-2F886;2IDEOGRAPH-2F887;2IDEOGRAPH-2F888;2IDEOGRAPH-2F889;2IDEOGRAPH-2F88A",
   "2IDEOGRAPH-2F88B;2IDEOGRAPH-2F88C;2IDEOGRAPH-2F88D;2IDEOGRAPH-2F88E;2IDEOGRAPH-2F88F",
   "2IDEOGRAPH-2F890;2IDEOGRAPH-2F891;2IDEOGRAPH-2F892;2IDEOGRAPH-2F893;2IDEOGRAPH-2F894",
   "2IDEOGRAPH-2F895;2IDEOGRAPH-2F896;2IDEOGRAPH-2F897;2IDEOGRAPH-2F898;2IDEOGRAPH-2F899",
   "2IDEOGRAPH-2F89A;2IDEOGRAPH-2F89B;2IDEOGRAPH-2F89C;2IDEOGRAPH-2F89D;2IDEOGRAPH-2F89E",
   "2IDEOGRAPH-2F89F;2IDEOGRAPH-2F8A0;2IDEOGRAPH-2F8A1;2IDEOGRAPH-2F8A2;2IDEOGRAPH-2F8A3",
   "2IDEOGRAPH-2F8A4;2IDEOGRAPH-2F8A5;2IDEOGRAPH-2F8A6;2IDEOGRAPH-2F8A7;2IDEOGRAPH-2F8A8",
   "2IDEOGRAPH-2F8A9;2IDEOGRAPH-2F8AA;2IDEOGRAPH-2F8AB;2IDEOGRAPH-2F8AC;2IDEOGRAPH-2F8AD",
   "2IDEOGRAPH-2F8AE;2IDEOGRAPH-2F8AF;2IDEOGRAPH-2F8B0;2IDEOGRAPH-2F8B1;2IDEOGRAPH-2F8B2",
   "2IDEOGRAPH-2F8B3;2IDEOGRAPH-2F8B4;2IDEOGRAPH-2F8B5;2IDEOGRAPH-2F8B6;2IDEOGRAPH-2F8B7",
   "2IDEOGRAPH-2F8B8;2IDEOGRAPH-2F8B9;2IDEOGRAPH-2F8BA;2IDEOGRAPH-2F8BB;2IDEOGRAPH-2F8BC",
   "2IDEOGRAPH-2F8BD;2IDEOGRAPH-2F8BE;2IDEOGRAPH-2F8BF;2IDEOGRAPH-2F8C0;2IDEOGRAPH-2F8C1",
   "2IDEOGRAPH-2F8C2;2IDEOGRAPH-2F8C3;2IDEOGRAPH-2F8C4;2IDEOGRAPH-2F8C5;2IDEOGRAPH-2F8C6",
   "2IDEOGRAPH-2F8C7;2IDEOGRAPH-2F8C8;2IDEOGRAPH-2F8C9;2IDEOGRAPH-2F8CA;2IDEOGRAPH-2F8CB",
   "2IDEOGRAPH-2F8CC;2IDEOGRAPH-2F8CD;2IDEOGRAPH-2F8CE;2IDEOGRAPH-2F8CF;2IDEOGRAPH-2F8D0",
   "2IDEOGRAPH-2F8D1;2IDEOGRAPH-2F8D2;2IDEOGRAPH-2F8D3;2IDEOGRAPH-2F8D4;2IDEOGRAPH-2F8D5",
   "2IDEOGRAPH-2F8D6;2IDEOGRAPH-2F8D7;2IDEOGRAPH-2F8D8;2IDEOGRAPH-2F8D9;2IDEOGRAPH-2F8DA",
   "2IDEOGRAPH-2F8DB;2IDEOGRAPH-2F8DC;2IDEOGRAPH-2F8DD;2IDEOGRAPH-2F8DE;2IDEOGRAPH-2F8DF",
   "2IDEOGRAPH-2F8E0;2IDEOGRAPH-2F8E1;2IDEOGRAPH-2F8E2;2IDEOGRAPH-2F8E3;2IDEOGRAPH-2F8E4",
   "2IDEOGRAPH-2F8E5;2IDEOGRAPH-2F8E6;2IDEOGRAPH-2F8E7;2IDEOGRAPH-2F8E8;2IDEOGRAPH-2F8E9",
   "2IDEOGRAPH-2F8EA;2IDEOGRAPH-2F8EB;2IDEOGRAPH-2F8EC;2IDEOGRAPH-2F8ED;2IDEOGRAPH-2F8EE",
   "2IDEOGRAPH-2F8EF;2IDEOGRAPH-2F8F0;2IDEOGRAPH-2F8F1;2IDEOGRAPH-2F8F2;2IDEOGRAPH-2F8F3",
   "2IDEOGRAPH-2F8F4;2IDEOGRAPH-2F8F5;2IDEOGRAPH-2F8F6;2IDEOGRAPH-2F8F7;2IDEOGRAPH-2F8F8",
   "2IDEOGRAPH-2F8F9;2IDEOGRAPH-2F8FA;2IDEOGRAPH-2F8FB;2IDEOGRAPH-2F8FC;2IDEOGRAPH-2F8FD",
   "2IDEOGRAPH-2F8FE;2IDEOGRAPH-2F8FF;2IDEOGRAPH-2F900;2IDEOGRAPH-2F901;2IDEOGRAPH-2F902",
   "2IDEOGRAPH-2F903;2IDEOGRAPH-2F904;2IDEOGRAPH-2F905;2IDEOGRAPH-2F906;2IDEOGRAPH-2F907",
   "2IDEOGRAPH-2F908;2IDEOGRAPH-2F909;2IDEOGRAPH-2F90A;2IDEOGRAPH-2F90B;2IDEOGRAPH-2F90C",
   "2IDEOGRAPH-2F90D;2IDEOGRAPH-2F90E;2IDEOGRAPH-2F90F;2IDEOGRAPH-2F910;2IDEOGRAPH-2F911",
   "2IDEOGRAPH-2F912;2IDEOGRAPH-2F913;2IDEOGRAPH-2F914;2IDEOGRAPH-2F915;2IDEOGRAPH-2F916",
   "2IDEOGRAPH-2F917;2IDEOGRAPH-2F918;2IDEOGRAPH-2F919;2IDEOGRAPH-2F91A;2IDEOGRAPH-2F91B",
   "2IDEOGRAPH-2F91C;2IDEOGRAPH-2F91D;2IDEOGRAPH-2F91E;2IDEOGRAPH-2F91F;2IDEOGRAPH-2F920",
   "2IDEOGRAPH-2F921;2IDEOGRAPH-2F922;2IDEOGRAPH-2F923;2IDEOGRAPH-2F924;2IDEOGRAPH-2F925",
   "2IDEOGRAPH-2F926;2IDEOGRAPH-2F927;2IDEOGRAPH-2F928;2IDEOGRAPH-2F929;2IDEOGRAPH-2F92A",
   "2IDEOGRAPH-2F92B;2IDEOGRAPH-2F92C;2IDEOGRAPH-2F92D;2IDEOGRAPH-2F92E;2IDEOGRAPH-2F92F",
   "2IDEOGRAPH-2F930;2IDEOGRAPH-2F931;2IDEOGRAPH-2F932;2IDEOGRAPH-2F933;2IDEOGRAPH-2F934",
   "2IDEOGRAPH-2F935;2IDEOGRAPH-2F936;2IDEOGRAPH-2F937;2IDEOGRAPH-2F938;2IDEOGRAPH-2F939",
   "2IDEOGRAPH-2F93A;2IDEOGRAPH-2F93B;2IDEOGRAPH-2F93C;2IDEOGRAPH-2F93D;2IDEOGRAPH-2F93E",
   "2IDEOGRAPH-2F93F;2IDEOGRAPH-2F940;2IDEOGRAPH-2F941;2IDEOGRAPH-2F942;2IDEOGRAPH-2F943",
   "2IDEOGRAPH-2F944;2IDEOGRAPH-2F945;2IDEOGRAPH-2F946;2IDEOGRAPH-2F947;2IDEOGRAPH-2F948",
   "2IDEOGRAPH-2F949;2IDEOGRAPH-2F94A;2IDEOGRAPH-2F94B;2IDEOGRAPH-2F94C;2IDEOGRAPH-2F94D",
   "2IDEOGRAPH-2F94E;2IDEOGRAPH-2F94F;2IDEOGRAPH-2F950;2IDEOGRAPH-2F951;2IDEOGRAPH-2F952",
   "2IDEOGRAPH-2F953;2IDEOGRAPH-2F954;2IDEOGRAPH-2F955;2IDEOGRAPH-2F956;2IDEOGRAPH-2F957",
   "2IDEOGRAPH-2F958;2IDEOGRAPH-2F959;2IDEOGRAPH-2F95A;2IDEOGRAPH-2F95B;2IDEOGRAPH-2F95C",
   "2IDEOGRAPH-2F95D;2IDEOGRAPH-2F95E;2IDEOGRAPH-2F95F;2IDEOGRAPH-2F960;2IDEOGRAPH-2F961",
   "2IDEOGRAPH-2F962;2IDEOGRAPH-2F963;2IDEOGRAPH-2F964;2IDEOGRAPH-2F965;2IDEOGRAPH-2F966",
   "2IDEOGRAPH-2F967;2IDEOGRAPH-2F968;2IDEOGRAPH-2F969;2IDEOGRAPH-2F96A;2IDEOGRAPH-2F96B",
   "2IDEOGRAPH-2F96C;2IDEOGRAPH-2F96D;2IDEOGRAPH-2F96E;2IDEOGRAPH-2F96F;2IDEOGRAPH-2F970",
   "2IDEOGRAPH-2F971;2IDEOGRAPH-2F972;2IDEOGRAPH-2F973;2IDEOGRAPH-2F974;2IDEOGRAPH-2F975",
   "2IDEOGRAPH-2F976;2IDEOGRAPH-2F977;2IDEOGRAPH-2F978;2IDEOGRAPH-2F979;2IDEOGRAPH-2F97A",
   "2IDEOGRAPH-2F97B;2IDEOGRAPH-2F97C;2IDEOGRAPH-2F97D;2IDEOGRAPH-2F97E;2IDEOGRAPH-2F97F",
   "2IDEOGRAPH-2F980;2IDEOGRAPH-2F981;2IDEOGRAPH-2F982;2IDEOGRAPH-2F983;2IDEOGRAPH-2F984",
   "2IDEOGRAPH-2F985;2IDEOGRAPH-2F986;2IDEOGRAPH-2F987;2IDEOGRAPH-2F988;2IDEOGRAPH-2F989",
   "2IDEOGRAPH-2F98A;2IDEOGRAPH-2F98B;2IDEOGRAPH-2F98C;2IDEOGRAPH-2F98D;2IDEOGRAPH-2F98E",
   "2IDEOGRAPH-2F98F;2IDEOGRAPH-2F990;2IDEOGRAPH-2F991;2IDEOGRAPH-2F992;2IDEOGRAPH-2F993",
   "2IDEOGRAPH-2F994;2IDEOGRAPH-2F995;2IDEOGRAPH-2F996;2IDEOGRAPH-2F997;2IDEOGRAPH-2F998",
   "2IDEOGRAPH-2F999;2IDEOGRAPH-2F99A;2IDEOGRAPH-2F99B;2IDEOGRAPH-2F99C;2IDEOGRAPH-2F99D",
   "2IDEOGRAPH-2F99E;2IDEOGRAPH-2F99F;2IDEOGRAPH-2F9A0;2IDEOGRAPH-2F9A1;2IDEOGRAPH-2F9A2",
   "2IDEOGRAPH-2F9A3;2IDEOGRAPH-2F9A4;2IDEOGRAPH-2F9A5;2IDEOGRAPH-2F9A6;2IDEOGRAPH-2F9A7",
   "2IDEOGRAPH-2F9A8;2IDEOGRAPH-2F9A9;2IDEOGRAPH-2F9AA;2IDEOGRAPH-2F9AB;2IDEOGRAPH-2F9AC",
   "2IDEOGRAPH-2F9AD;2IDEOGRAPH-2F9AE;2IDEOGRAPH-2F9AF;2IDEOGRAPH-2F9B0;2IDEOGRAPH-2F9B1",
   "2IDEOGRAPH-2F9B2;2IDEOGRAPH-2F9B3;2IDEOGRAPH-2F9B4;2IDEOGRAPH-2F9B5;2IDEOGRAPH-2F9B6",
   "2IDEOGRAPH-2F9B7;2IDEOGRAPH-2F9B8;2IDEOGRAPH-2F9B9;2IDEOGRAPH-2F9BA;2IDEOGRAPH-2F9BB",
   "2IDEOGRAPH-2F9BC;2IDEOGRAPH-2F9BD;2IDEOGRAPH-2F9BE;2IDEOGRAPH-2F9BF;2IDEOGRAPH-2F9C0",
   "2IDEOGRAPH-2F9C1;2IDEOGRAPH-2F9C2;2IDEOGRAPH-2F9C3;2IDEOGRAPH-2F9C4;2IDEOGRAPH-2F9C5",
   "2IDEOGRAPH-2F9C6;2IDEOGRAPH-2F9C7;2IDEOGRAPH-2F9C8;2IDEOGRAPH-2F9C9;2IDEOGRAPH-2F9CA",
   "2IDEOGRAPH-2F9CB;2IDEOGRAPH-2F9CC;2IDEOGRAPH-2F9CD;2IDEOGRAPH-2F9CE;2IDEOGRAPH-2F9CF",
   "2IDEOGRAPH-2F9D0;2IDEOGRAPH-2F9D1;2IDEOGRAPH-2F9D2;2IDEOGRAPH-2F9D3;2IDEOGRAPH-2F9D4",
   "2IDEOGRAPH-2F9D5;2IDEOGRAPH-2F9D6;2IDEOGRAPH-2F9D7;2IDEOGRAPH-2F9D8;2IDEOGRAPH-2F9D9",
   "2IDEOGRAPH-2F9DA;2IDEOGRAPH-2F9DB;2IDEOGRAPH-2F9DC;2IDEOGRAPH-2F9DD;2IDEOGRAPH-2F9DE",
   "2IDEOGRAPH-2F9DF;2IDEOGRAPH-2F9E0;2IDEOGRAPH-2F9E1;2IDEOGRAPH-2F9E2;2IDEOGRAPH-2F9E3",
   "2IDEOGRAPH-2F9E4;2IDEOGRAPH-2F9E5;2IDEOGRAPH-2F9E6;2IDEOGRAPH-2F9E7;2IDEOGRAPH-2F9E8",
   "2IDEOGRAPH-2F9E9;2IDEOGRAPH-2F9EA;2IDEOGRAPH-2F9EB;2IDEOGRAPH-2F9EC;2IDEOGRAPH-2F9ED",
   "2IDEOGRAPH-2F9EE;2IDEOGRAPH-2F9EF;2IDEOGRAPH-2F9F0;2IDEOGRAPH-2F9F1;2IDEOGRAPH-2F9F2",
   "2IDEOGRAPH-2F9F3;2IDEOGRAPH-2F9F4;2IDEOGRAPH-2F9F5;2IDEOGRAPH-2F9F6;2IDEOGRAPH-2F9F7",
   "2IDEOGRAPH-2F9F8;2IDEOGRAPH-2F9F9;2IDEOGRAPH-2F9FA;2IDEOGRAPH-2F9FB;2IDEOGRAPH-2F9FC",
   "2IDEOGRAPH-2F9FD;2IDEOGRAPH-2F9FE;2IDEOGRAPH-2F9FF;2IDEOGRAPH-2FA00;2IDEOGRAPH-2FA01",
   "2IDEOGRAPH-2FA02;2IDEOGRAPH-2FA03;2IDEOGRAPH-2FA04;2IDEOGRAPH-2FA05;2IDEOGRAPH-2FA06",
   "2IDEOGRAPH-2FA07;2IDEOGRAPH-2FA08;2IDEOGRAPH-2FA09;2IDEOGRAPH-2FA0A;2IDEOGRAPH-2FA0B",
   "2IDEOGRAPH-2FA0C;2IDEOGRAPH-2FA0D;2IDEOGRAPH-2FA0E;2IDEOGRAPH-2FA0F;2IDEOGRAPH-2FA10",
   "2IDEOGRAPH-2FA11;2IDEOGRAPH-2FA12;2IDEOGRAPH-2FA13;2IDEOGRAPH-2FA14;2IDEOGRAPH-2FA15",
   "2IDEOGRAPH-2FA16;2IDEOGRAPH-2FA17;2IDEOGRAPH-2FA18;2IDEOGRAPH-2FA19;2IDEOGRAPH-2FA1A",
   "2IDEOGRAPH-2FA1B;2IDEOGRAPH-2FA1C;2IDEOGRAPH-2FA1D;@E0001;0LANGUAGE TAG;@E0020;0TAG SPACE",
   "1EXCLAMATION MARK;1QUOTATION MARK;1NUMBER SIGN;1DOLLAR SIGN;1PERCENT SIGN;1AMPERSAND",
   "1APOSTROPHE;1LEFT PARENTHESIS;1RIGHT PARENTHESIS;1ASTERISK;1PLUS SIGN;1COMMA;1HYPHEN-MINUS",
   "1FULL STOP;1SOLIDUS;1DIGIT ZERO;2ONE;2TWO;2THREE;2FOUR;2FIVE;2SIX;2SEVEN;2EIGHT;2NINE;1COLON",
   "1SEMICOLON;1LESS-THAN SIGN;1EQUALS SIGN;1GREATER-THAN SIGN;1QUESTION MARK;1COMMERCIAL AT",
   "1LATIN CAPITAL LETTER A;4B;4C;4D;4E;4F;4G;4H;4I;4J;4K;4L;4M;4N;4O;4P;4Q;4R;4S;4T;4U;4V;4W;4X",
   "4Y;4Z;1LEFT SQUARE BRACKET;1REVERSE SOLIDUS;1RIGHT SQUARE BRACKET;1CIRCUMFLEX ACCENT;1LOW LINE",
   "1GRAVE ACCENT;1LATIN SMALL LETTER A;4B;4C;4D;4E;4F;4G;4H;4I;4J;4K;4L;4M;4N;4O;4P;4Q;4R;4S;4T",
   "4U;4V;4W;4X;4Y;4Z;1LEFT CURLY BRACKET;1VERTICAL LINE;1RIGHT CURLY BRACKET;1TILDE;0CANCEL TAG",
   "@E0100;0VARIATION SELECTOR-17;1SELECTOR-18;1SELECTOR-19;1SELECTOR-20;1SELECTOR-21;1SELECTOR-22",
   "1SELECTOR-23;1SELECTOR-24;1SELECTOR-25;1SELECTOR-26;1SELECTOR-27;1SELECTOR-28;1SELECTOR-29",
   "1SELECTOR-30;1SELECTOR-31;1SELECTOR-32;1SELECTOR-33;1SELECTOR-34;1SELECTOR-35;1SELECTOR-36",
   "1SELECTOR-37;1SELECTOR-38;1SELECTOR-39;1SELECTOR-40;1SELECTOR-41;1SELECTOR-42;1SELECTOR-43",
   "1SELECTOR-44;1SELECTOR-45;1SELECTOR-46;1SELECTOR-47;1SELECTOR-48;1SELECTOR-49;1SELECTOR-50",
   "1SELECTOR-51;1SELECTOR-52;1SELECTOR-53;1SELECTOR-54;1SELECTOR-55;1SELECTOR-56;1SELECTOR-57",
   "1SELECTOR-58;1SELECTOR-59;1SELECTOR-60;1SELECTOR-61;1SELECTOR-62;1SELECTOR-63;1SELECTOR-64",
   "1SELECTOR-65;1SELECTOR-66;1SELECTOR-67;1SELECTOR-68;1SELECTOR-69;1SELECTOR-70;1SELECTOR-71",
   "1SELECTOR-72;1SELECTOR-73;1SELECTOR-74;1SELECTOR-75;1SELECTOR-76;1SELECTOR-77;1SELECTOR-78",
   "1SELECTOR-79;1SELECTOR-80;1SELECTOR-81;1SELECTOR-82;1SELECTOR-83;1SELECTOR-84;1SELECTOR-85",
   "1SELECTOR-86;1SELECTOR-87;1SELECTOR-88;1SELECTOR-89;1SELECTOR-90;1SELECTOR-91;1SELECTOR-92",
   "1SELECTOR-93;1SELECTOR-94;1SELECTOR-95;1SELECTOR-96;1SELECTOR-97;1SELECTOR-98;1SELECTOR-99",
   "1SELECTOR-100;1SELECTOR-101;1SELECTOR-102;1SELECTOR-103;1SELECTOR-104;1SELECTOR-105",
   "1SELECTOR-106;1SELECTOR-107;1SELECTOR-108;1SELECTOR-109;1SELECTOR-110;1SELECTOR-111",
   "1SELECTOR-112;1SELECTOR-113;1SELECTOR-114;1SELECTOR-115;1SELECTOR-116;1SELECTOR-117",
   "1SELECTOR-118;1SELECTOR-119;1SELECTOR-120;1SELECTOR-121;1SELECTOR-122;1SELECTOR-123",
   "1SELECTOR-124;1SELECTOR-125;1SELECTOR-126;1SELECTOR-127;1SELECTOR-128;1SELECTOR-129",
   "1SELECTOR-130;1SELECTOR-131;1SELECTOR-132;1SELECTOR-133;1SELECTOR-134;1SELECTOR-135",
   "1SELECTOR-136;1SELECTOR-137;1SELECTOR-138;1SELECTOR-139;1SELECTOR-140;1SELECTOR-141",
   "1SELECTOR-142;1SELECTOR-143;1SELECTOR-144;1SELECTOR-145;1SELECTOR-146;1SELECTOR-147",
   "1SELECTOR-148;1SELECTOR-149;1SELECTOR-150;1SELECTOR-151;1SELECTOR-152;1SELECTOR-153",
   "1SELECTOR-154;1SELECTOR-155;1SELECTOR-156;1SELECTOR-157;1SELECTOR-158;1SELECTOR-159",
   "1SELECTOR-160;1SELECTOR-161;1SELECTOR-162;1SELECTOR-163;1SELECTOR-164;1SELECTOR-165",
   "1SELECTOR-166;1SELECTOR-167;1SELECTOR-168;1SELECTOR-169;1SELECTOR-170;1SELECTOR-171",
   "1SELECTOR-172;1SELECTOR-173;1SELECTOR-174;1SELECTOR-175;1SELECTOR-176;1SELECTOR-177",
   "1SELECTOR-178;1SELECTOR-179;1SELECTOR-180;1SELECTOR-181;1SELECTOR-182;1SELECTOR-183",
   "1SELECTOR-184;1SELECTOR-185;1SELECTOR-186;1SELECTOR-187;1SELECTOR-188;1SELECTOR-189",
   "1SELECTOR-190;1SELECTOR-191;1SELECTOR-192;1SELECTOR-193;1SELECTOR-194;1SELECTOR-195",
   "1SELECTOR-196;1SELECTOR-197;1SELECTOR-198;1SELECTOR-199;1SELECTOR-200;1SELECTOR-201",
   "1SELECTOR-202;1SELECTOR-203;1SELECTOR-204;1SELECTOR-205;1SELECTOR-206;1SELECTOR-207",
   "1SELECTOR-208;1SELECTOR-209;1SELECTOR-210;1SELECTOR-211;1SELECTOR-212;1SELECTOR-213",
   "1SELECTOR-214;1SELECTOR-215;1SELECTOR-216;1SELECTOR-217;1SELECTOR-218;1SELECTOR-219",
   "1SELECTOR-220;1SELECTOR-221;1SELECTOR-222;1SELECTOR-223;1SELECTOR-224;1SELECTOR-225",
   "1SELECTOR-226;1SELECTOR-227;1SELECTOR-228;1SELECTOR-229;1SELECTOR-230;1SELECTOR-231",
   "1SELECTOR-232;1SELECTOR-233;1SELECTOR-234;1SELECTOR-235;1SELECTOR-236;1SELECTOR-237",
   "1SELECTOR-238;1SELECTOR-239;1SELECTOR-240;1SELECTOR-241;1SELECTOR-242;1SELECTOR-243",
   "1SELECTOR-244;1SELECTOR-245;1SELECTOR-246;1SELECTOR-247;1SELECTOR-248;1SELECTOR-249",
   "1SELECTOR-250;1SELECTOR-251;1SELECTOR-252;1SELECTOR-253;1SELECTOR-254;1SELECTOR-255",
   "1SELECTOR-256"]

end CharacterName

end ReleaseWatch
