/-!
# Names of characters: from hieroglyphs to the signs of music, mathematics and gestures

The rows are those that `Text.NameRow` reads.
-/

namespace RiskGauge.Text.CharName

/-- The names of the characters from U+13000 to U+1DAAF. -/
def notations : String := "13000:EGYPTIAN HIEROGLYPH A001;2A002;2A003;2A004;2A005;2A005A;2A006;2A006A;2A006B;2A007;2A008;2A009;2A010;2A011
2A012;2A013;2A014;2A014A;2A015;2A016;2A017;2A017A;2A018;2A019;2A020;2A021;2A022;2A023;2A024;2A025;2A026;2A027;2A028
2A029;2A030;2A031;2A032;2A032A;2A033;2A034;2A035;2A036;2A037;2A038;2A039;2A040;2A040A;2A041;2A042;2A042A;2A043
2A043A;2A044;2A045;2A045A;2A046;2A047;2A048;2A049;2A050;2A051;2A052;2A053;2A054;2A055;2A056;2A057;2A058;2A059;2A060
2A061;2A062;2A063;2A064;2A065;2A066;2A067;2A068;2A069;2A070;2B001;2B002;2B003;2B004;2B005;2B005A;2B006;2B007;2B008
2B009;2C001;2C002;2C002A;2C002B;2C002C;2C003;2C004;2C005;2C006;2C007;2C008;2C009;2C010;2C010A;2C011;2C012;2C013
2C014;2C015;2C016;2C017;2C018;2C019;2C020;2C021;2C022;2C023;2C024;2D001;2D002;2D003;2D004;2D005;2D006;2D007;2D008
2D008A;2D009;2D010;2D011;2D012;2D013;2D014;2D015;2D016;2D017;2D018;2D019;2D020;2D021;2D022;2D023;2D024;2D025;2D026
2D027;2D027A;2D028;2D029;2D030;2D031;2D031A;2D032;2D033;2D034;2D034A;2D035;2D036;2D037;2D038;2D039;2D040;2D041;2D042
2D043;2D044;2D045;2D046;2D046A;2D047;2D048;2D048A;2D049;2D050;2D050A;2D050B;2D050C;2D050D;2D050E;2D050F;2D050G
2D050H;2D050I;2D051;2D052;2D052A;2D053;2D054;2D054A;2D055;2D056;2D057;2D058;2D059;2D060;2D061;2D062;2D063;2D064
2D065;2D066;2D067;2D067A;2D067B;2D067C;2D067D;2D067E;2D067F;2D067G;2D067H;2E001;2E002;2E003;2E004;2E005;2E006;2E007
2E008;2E008A;2E009;2E009A;2E010;2E011;2E012;2E013;2E014;2E015;2E016;2E016A;2E017;2E017A;2E018;2E019;2E020;2E020A
2E021;2E022;2E023;2E024;2E025;2E026;2E027;2E028;2E028A;2E029;2E030;2E031;2E032;2E033;2E034;2E034A;2E036;2E037;2E038
2F001;2F001A;2F002;2F003;2F004;2F005;2F006;2F007;2F008;2F009;2F010;2F011;2F012;2F013;2F013A;2F014;2F015;2F016;2F017
2F018;2F019;2F020;2F021;2F021A;2F022;2F023;2F024;2F025;2F026;2F027;2F028;2F029;2F030;2F031;2F031A;2F032;2F033;2F034
2F035;2F036;2F037;2F037A;2F038;2F038A;2F039;2F040;2F041;2F042;2F043;2F044;2F045;2F045A;2F046;2F046A;2F047;2F047A
2F048;2F049;2F050;2F051;2F051A;2F051B;2F051C;2F052;2F053;2G001;2G002;2G003;2G004;2G005;2G006;2G006A;2G007;2G007A
2G007B;2G008;2G009;2G010;2G011;2G011A;2G012;2G013;2G014;2G015;2G016;2G017;2G018;2G019;2G020;2G020A;2G021;2G022;2G023
2G024;2G025;2G026;2G026A;2G027;2G028;2G029;2G030;2G031;2G032;2G033;2G034;2G035;2G036;2G036A;2G037;2G037A;2G038;2G039
2G040;2G041;2G042;2G043;2G043A;2G044;2G045;2G045A;2G046;2G047;2G048;2G049;2G050;2G051;2G052;2G053;2G054;2H001;2H002
2H003;2H004;2H005;2H006;2H006A;2H007;2H008;2I001;2I002;2I003;2I004;2I005;2I005A;2I006;2I007;2I008;2I009;2I009A;2I010
2I010A;2I011;2I011A;2I012;2I013;2I014;2I015;2K001;2K002;2K003;2K004;2K005;2K006;2K007;2K008;2L001;2L002;2L002A;2L003
2L004;2L005;2L006;2L006A;2L007;2L008;2M001;2M001A;2M001B;2M002;2M003;2M003A;2M004;2M005;2M006;2M007;2M008;2M009
2M010;2M010A;2M011;2M012;2M012A;2M012B;2M012C;2M012D;2M012E;2M012F;2M012G;2M012H;2M013;2M014;2M015;2M015A;2M016
2M016A;2M017;2M017A;2M018;2M019;2M020;2M021;2M022;2M022A;2M023;2M024;2M024A;2M025;2M026;2M027;2M028;2M028A;2M029
2M030;2M031;2M031A;2M032;2M033;2M033A;2M033B;2M034;2M035;2M036;2M037;2M038;2M039;2M040;2M040A;2M041;2M042;2M043
2M044;2N001;2N002;2N003;2N004;2N005;2N006;2N007;2N008;2N009;2N010;2N011;2N012;2N013;2N014;2N015;2N016;2N017;2N018
2N018A;2N018B;2N019;2N020;2N021;2N022;2N023;2N024;2N025;2N025A;2N026;2N027;2N028;2N029;2N030;2N031;2N032;2N033
2N033A;2N034;2N034A;2N035;2N035A;2N036;2N037;2N037A;2N038;2N039;2N040;2N041;2N042;2NL001;2NL002;2NL003;2NL004;2NL005
2NL005A;2NL006;2NL007;2NL008;2NL009;2NL010;2NL011;2NL012;2NL013;2NL014;2NL015;2NL016;2NL017;2NL017A;2NL018;2NL019
2NL020;2NU001;2NU002;2NU003;2NU004;2NU005;2NU006;2NU007;2NU008;2NU009;2NU010;2NU010A;2NU011;2NU011A;2NU012;2NU013
2NU014;2NU015;2NU016;2NU017;2NU018;2NU018A;2NU019;2NU020;2NU021;2NU022;2NU022A;2O001;2O001A;2O002;2O003;2O004;2O005
2O005A;2O006;2O006A;2O006B;2O006C;2O006D;2O006E;2O006F;2O007;2O008;2O009;2O010;2O010A;2O010B;2O010C;2O011;2O012
2O013;2O014;2O015;2O016;2O017;2O018;2O019;2O019A;2O020;2O020A;2O021;2O022;2O023;2O024;2O024A;2O025;2O025A;2O026
2O027;2O028;2O029;2O029A;2O030;2O030A;2O031;2O032;2O033;2O033A;2O034;2O035;2O036;2O036A;2O036B;2O036C;2O036D;2O037
2O038;2O039;2O040;2O041;2O042;2O043;2O044;2O045;2O046;2O047;2O048;2O049;2O050;2O050A;2O050B;2O051;2P001;2P001A;2P002
2P003;2P003A;2P004;2P005;2P006;2P007;2P008;2P009;2P010;2P011;2Q001;2Q002;2Q003;2Q004;2Q005;2Q006;2Q007;2R001;2R002
2R002A;2R003;2R003A;2R003B;2R004;2R005;2R006;2R007;2R008;2R009;2R010;2R010A;2R011;2R012;2R013;2R014;2R015;2R016
2R016A;2R017;2R018;2R019;2R020;2R021;2R022;2R023;2R024;2R025;2R026;2R027;2R028;2R029;2S001;2S002;2S002A;2S003;2S004
2S005;2S006;2S006A;2S007;2S008;2S009;2S010;2S011;2S012;2S013;2S014;2S014A;2S014B;2S015;2S016;2S017;2S017A;2S018
2S019;2S020;2S021;2S022;2S023;2S024;2S025;2S026;2S026A;2S026B;2S027;2S028;2S029;2S030;2S031;2S032;2S033;2S034;2S035
2S035A;2S036;2S037;2S038;2S039;2S040;2S041;2S042;2S043;2S044;2S045;2S046;2T001;2T002;2T003;2T003A;2T004;2T005;2T006
2T007;2T007A;2T008;2T008A;2T009;2T009A;2T010;2T011;2T011A;2T012;2T013;2T014;2T015;2T016;2T016A;2T017;2T018;2T019
2T020;2T021;2T022;2T023;2T024;2T025;2T026;2T027;2T028;2T029;2T030;2T031;2T032;2T032A;2T033;2T033A;2T034;2T035;2T036
2U001;2U002;2U003;2U004;2U005;2U006;2U006A;2U006B;2U007;2U008;2U009;2U010;2U011;2U012;2U013;2U014;2U015;2U016;2U017
2U018;2U019;2U020;2U021;2U022;2U023;2U023A;2U024;2U025;2U026;2U027;2U028;2U029;2U029A;2U030;2U031;2U032;2U032A;2U033
2U034;2U035;2U036;2U037;2U038;2U039;2U040;2U041;2U042;2V001;2V001A;2V001B;2V001C;2V001D;2V001E;2V001F;2V001G;2V001H
2V001I;2V002;2V002A;2V003;2V004;2V005;2V006;2V007;2V007A;2V007B;2V008;2V009;2V010;2V011;2V011A;2V011B;2V011C;2V012
2V012A;2V012B;2V013;2V014;2V015;2V016;2V017;2V018;2V019;2V020;2V020A;2V020B;2V020C;2V020D;2V020E;2V020F;2V020G
2V020H;2V020I;2V020J;2V020K;2V020L;2V021;2V022;2V023;2V023A;2V024;2V025;2V026;2V027;2V028;2V028A;2V029;2V029A;2V030
2V030A;2V031;2V031A;2V032;2V033;2V033A;2V034;2V035;2V036;2V037;2V037A;2V038;2V039;2V040;2V040A;2W001;2W002;2W003
2W003A;2W004;2W005;2W006;2W007;2W008;2W009;2W009A;2W010;2W010A;2W011;2W012;2W013;2W014;2W014A;2W015;2W016;2W017
2W017A;2W018;2W018A;2W019;2W020;2W021;2W022;2W023;2W024;2W024A;2W025;2X001;2X002;2X003;2X004;2X004A;2X004B;2X005
2X006;2X006A;2X007;2X008;2X008A;2Y001;2Y001A;2Y002;2Y003;2Y004;2Y005;2Y006;2Y007;2Y008;2Z001;2Z002;2Z002A;2Z002B
2Z002C;2Z002D;2Z003;2Z003A;2Z003B;2Z004;2Z004A;2Z005;2Z005A;2Z006;2Z007;2Z008;2Z009;2Z010;2Z011;2Z012;2Z013;2Z014
2Z015;2Z015A;2Z015B;2Z015C;2Z015D;2Z015E;2Z015F;2Z015G;2Z015H;2Z015I;2Z016;2Z016A;2Z016B;2Z016C;2Z016D;2Z016E;2Z016F
2Z016G;2Z016H;2AA001;2AA002;2AA003;2AA004;2AA005;2AA006;2AA007;2AA007A;2AA007B;2AA008;2AA009;2AA010;2AA011;2AA012
2AA013;2AA014;2AA015;2AA016;2AA017;2AA018;2AA019;2AA020;2AA021;2AA022;2AA023;2AA024;2AA025;2AA026;2AA027;2AA028
2AA029;2AA030;2AA031;2AA032;13430:2VERTICAL JOINER;2HORIZONTAL JOINER;2INSERT AT TOP START;4BOTTOM START;4TOP END
4BOTTOM END;2OVERLAY MIDDLE;2BEGIN SEGMENT;2END SEGMENT;14400:ANATOLIAN HIEROGLYPH A001;2A002;2A003;2A004;2A005
2A006;2A007;2A008;2A009;2A010;2A010A;2A011;2A012;2A013;2A014;2A015;2A016;2A017;2A018;2A019;2A020;2A021;2A022;2A023
2A024;2A025;2A026;2A026A;2A027;2A028;2A029;2A030;2A031;2A032;2A033;2A034;2A035;2A036;2A037;2A038;2A039;2A039A;2A040
2A041;2A041A;2A042;2A043;2A044;2A045;2A045A;2A046;2A046A;2A046B;2A047;2A048;2A049;2A050;2A051;2A052;2A053;2A054
2A055;2A056;2A057;2A058;2A059;2A060;2A061;2A062;2A063;2A064;2A065;2A066;2A066A;2A066B;2A066C;2A067;2A068;2A069;2A070
2A071;2A072;2A073;2A074;2A075;2A076;2A077;2A078;2A079;2A080;2A081;2A082;2A083;2A084;2A085;2A086;2A087;2A088;2A089
2A090;2A091;2A092;2A093;2A094;2A095;2A096;2A097;2A097A;2A098;2A098A;2A099;2A100;2A100A;2A101;2A101A;2A102;2A102A
2A103;2A104;2A104A;2A104B;2A104C;2A105;2A105A;2A105B;2A106;2A107;2A107A;2A107B;2A107C;2A108;2A109;2A110;2A110A
2A110B;2A111;2A112;2A113;2A114;2A115;2A115A;2A116;2A117;2A118;2A119;2A120;2A121;2A122;2A123;2A124;2A125;2A125A;2A126
2A127;2A128;2A129;2A130;2A131;2A132;2A133;2A134;2A135;2A135A;2A136;2A137;2A138;2A139;2A140;2A141;2A142;2A143;2A144
2A145;2A146;2A147;2A148;2A149;2A150;2A151;2A152;2A153;2A154;2A155;2A156;2A157;2A158;2A159;2A160;2A161;2A162;2A163
2A164;2A165;2A166;2A167;2A168;2A169;2A170;2A171;2A172;2A173;2A174;2A175;2A176;2A177;2A178;2A179;2A180;2A181;2A182
2A183;2A184;2A185;2A186;2A187;2A188;2A189;2A190;2A191;2A192;2A193;2A194;2A195;2A196;2A197;2A198;2A199;2A200;2A201
2A202;2A202A;2A202B;2A203;2A204;2A205;2A206;2A207;2A207A;2A208;2A209;2A209A;2A210;2A211;2A212;2A213;2A214;2A215
2A215A;2A216;2A216A;2A217;2A218;2A219;2A220;2A221;2A222;2A223;2A224;2A225;2A226;2A227;2A227A;2A228;2A229;2A230;2A231
2A232;2A233;2A234;2A235;2A236;2A237;2A238;2A239;2A240;2A241;2A242;2A243;2A244;2A245;2A246;2A247;2A248;2A249;2A250
2A251;2A252;2A253;2A254;2A255;2A256;2A257;2A258;2A259;2A260;2A261;2A262;2A263;2A264;2A265;2A266;2A267;2A267A;2A268
2A269;2A270;2A271;2A272;2A273;2A274;2A275;2A276;2A277;2A278;2A279;2A280;2A281;2A282;2A283;2A284;2A285;2A286;2A287
2A288;2A289;2A289A;2A290;2A291;2A292;2A293;2A294;2A294A;2A295;2A296;2A297;2A298;2A299;2A299A;2A300;2A301;2A302;2A303
2A304;2A305;2A306;2A307;2A308;2A309;2A309A;2A310;2A311;2A312;2A313;2A314;2A315;2A316;2A317;2A318;2A319;2A320;2A321
2A322;2A323;2A324;2A325;2A326;2A327;2A328;2A329;2A329A;2A330;2A331;2A332A;2A332B;2A332C;2A333;2A334;2A335;2A336
2A336A;2A336B;2A336C;2A337;2A338;2A339;2A340;2A341;2A342;2A343;2A344;2A345;2A346;2A347;2A348;2A349;2A350;2A351;2A352
2A353;2A354;2A355;2A356;2A357;2A358;2A359;2A359A;2A360;2A361;2A362;2A363;2A364;2A364A;2A365;2A366;2A367;2A368;2A368A
2A369;2A370;2A371;2A371A;2A372;2A373;2A374;2A375;2A376;2A377;2A378;2A379;2A380;2A381;2A381A;2A382;2A383 RA OR RI
2A383A;2A384;2A385;2A386;2A386A;2A387;2A388;2A389;2A390;2A391;2A392;2A393 EIGHT;2A394;2A395;2A396;2A397;2A398;2A399
2A400;2A401;2A402;2A403;2A404;2A405;2A406;2A407;2A408;2A409;2A410 BEGIN LOGOGRAM MARK;2A410A END LOGOGRAM MARK;2A411
2A412;2A413;2A414;2A415;2A416;2A417;2A418;2A419;2A420;2A421;2A422;2A423;2A424;2A425;2A426;2A427;2A428;2A429;2A430
2A431;2A432;2A433;2A434;2A435;2A436;2A437;2A438;2A439;2A440;2A441;2A442;2A443;2A444;2A445;2A446;2A447;2A448;2A449
2A450;2A450A;2A451;2A452;2A453;2A454;2A455;2A456;2A457;2A457A;2A458;2A459;2A460;2A461;2A462;2A463;2A464;2A465;2A466
2A467;2A468;2A469;2A470;2A471;2A472;2A473;2A474;2A475;2A476;2A477;2A478;2A479;2A480;2A481;2A482;2A483;2A484;2A485
2A486;2A487;2A488;2A489;2A490;2A491;2A492;2A493;2A494;2A495;2A496;2A497;2A501;2A502;2A503;2A504;2A505;2A506;2A507
2A508;2A509;2A510;2A511;2A512;2A513;2A514;2A515;2A516;2A517;2A518;2A519;2A520;2A521;2A522;2A523;2A524;2A525;2A526
2A527;2A528;2A529;2A530;16800:BAMUM LETTER PHASE-A NGKUE MFON;4GBIEE FON;4PON MFON PIPAEMGBIEE;6PIPAEMBA;4NAA MFON
4SHUENSHUET;4TITA MFON;4NZA MFON;4SHINDA PA NJI;4PON PA NJI PIPAEMGBIEE;7PIPAEMBA;4MAEMBGBIEE;4TU MAEMBA;4NGANGU
4MAEMVEUX;4MANSUAE;4MVEUAENGAM;4SEUNYAM;4NTOQPEN;4KEUKEUTNDA;4NKINDI;4SUU;4NGKUENZEUM;4LAPAQ;4LET KUT;4NTAP MFAA
4MAEKEUP;4PASHAE;4GHEUAERAE;4PAMSHAE;4MON NGGEUAET;4NZUN MEUT;4U YUQ NAE;4GHEUAEGHEUAE;4NTAP NTAA;4SISA;4MGBASA
4MEUNJOMNDEUQ;4MOOMPUQ;4KAFA;4PA LEERAEWA;4NDA LEERAEWA;4PET;4MAEMKPEN;4NIKA;4PUP;4TUAEP;4LUAEP;4SONJAM;4TEUTEUWEN
4MAENYI;4KET;4NDAANGGEUAET;4KUOQ;4MOOMEUT;4SHUM;4LOMMAE;4FIRI;4ROM;4KPOQ;4SOQ;4MAP PIEET;4SHIRAE;4NTAP
4SHOQ NSHUT YUM;4NYIT MONGKEUAEQ;4PAARAE;4NKAARAE;4UNKNOWN;4NGGEN;4MAESI;4NJAM;4MBANYI;4NYET;4TEUAEN;4SOT;4PAAM
4NSHIEE;4MAEM;4NYI;4KAQ;4NSHA;4VEE;4LU;4NEN;4NAQ;4MBAQ;3-B NSHUET;4TU MAEMGBIEE;4SIEE;4SET TU;4LOM NTEUM;4MBA MAELEE
4KIEEM;4YEURAE;4MBAARAE;4KAM;4PEESHI;4YAFU LEERAEWA;4LAM NSHUT NYAM;4NTIEE SHEUOQ;4NDU NJAA;4GHEUGHEUAEM;4PIT
4TU NSIEE;4SHET NJAQ;4SHEUAEQTU;4MFON TEUAEQ;4MBIT MBAAKET;4NYI NTEUM;4KEUPUQ;4GHEUGHEN;4KEUYEUX;4LAANAE;4PARUM
4VEUM;4NGKINDI MVOP;4NGGEU MBU;4WUAET;4SAKEUAE;4TAAM;4MEUQ;4NGGUOQ;5LARGE;4MFIYAQ;4SUE;4MBEURI;4MONTIEEN;4NYAEMAE
4PUNGAAM;4MEUT NGGEET;4FEUX;4MBUOQ;4FEE;4KEUAEM;4MA NJEUAENA;5NJUQA;4LET;4NGGAAM;4NSEN;4MA;4KIQ;4NGOM
3-C NGKUE MAEMBA;4NZA;4YUM;4WANGKUOQ;4NGGEN;4NDEUAEREE;4NGKAQ;4GHARAE;4MBEEKEET;4GBAYI;4NYIR MKPARAQ MEUN;4NTU MBIT
4MBEUM;4PIRIEEN;4NDOMBU;4MBAA CABBAGE-TREE;4KEUSHEUAEP;4GHAP;4KEUKAQ;4YU MUOMAE;4NZEUM;4MBUE;4NSEUAEN;4MBIT;4YEUQ
4KPARAQ;4KAA;4SEUX;4NDIDA;4TAASHAE;4NJUEQ;4TITA YUE;4SUAET;4NGGUAEN NYAM;4VEUX;4NANSANAQ;4MA KEUAERI;4NTAA;4NGGUON
4LAP;4MBIRIEEN;4MGBASAQ;4NTEUNGBA;4TEUTEUX;4NGGUM;4FUE;4NDEUT;4NSA;4NSHAQ;4BUNG;4VEUAEPEN;4MBERAE;4RU;4NJAEM;4LAM
4TITUAEP;4NSUOT NGOM;4NJEEEE;4KET;4NGGU;4MAESI;4MBUAEM;4LU;4KUT;4NJAM;4NGOM;4WUP;4NGGUEET;4NSOM;4NTEN;4KUOP NKAARAE
4NSUN;4NDAM;4MA NSIEE;4YAA;4NDAP;4SHUEQ;4SETFON;4MBI;4MAEMBA;4MBANYI;4KEUSEUX;4MBEUX;4KEUM;4MBAA PICKET;4YUWOQ
4NJEUX;4MIEE;4MUAE;4SHIQ;4KEN LAW;5FATIGUE;4NGAQ;4NAQ;4LIQ;4PIN;4PEN;4TET;3-D MBUO;4WAP;4NJI;4MFON;4NJIEE;4LIEE
4NJEUT;4NSHEE;4NGGAAMAE;4NYAM;4WUAEN;4NGKUN;4SHEE;4NGKAP;4KEUAETMEUN;4TEUT;4SHEUAE;4NJAP;4SUE;4KET;4YAEMMAE;4KUOM
4SAP;4MFEUT;4NDEUX;4MALEERI;4MEUT;4SEUAEQ;4YEN;4NJEUAEM;4KEUOT MBUAE;4NGKEURI;4TU;4GHAA;4NGKYEE;4FEUFEUAET;4NDEE
4MGBOFUM;4LEUAEP;4NDON;4MONI;4MGBEUN;4PUUT;4MGBIEE;4MFO;4LUM;4NSIEEP;4MBAA;4KWAET;4NYET;4TEUAEN;4SOT;4YUWOQ;4KEUM
4RAEM;4TEEEE;4NGKEUAEQ;4MFEUAE;4NSIEET;4KEUP;4PIP;4PEUTAE;4NYUE;4LET;4NGGAAM;4MFIEE;4NGGWAEN;4YUOM;4PAP;4YUOP;4NDAM
4NTEUM;4SUAE;4KUN;4NGGEUX;4NGKIEE;4TUOT;4MEUN;4KUQ;4NSUM;4TEUN;4MAENJET;4NGGAP;4LEUM;4NGGUOM;4NSHUT;4NJUEQ;4GHEUAE
4KU;4REN OLD;4TAE;4TOQ;4NYI;4RII;4LEEEE;4MEEEE;4M;4SUU;4MU;4SHII;4SHEUX;4KYEE;4NU;4SHU;4NTEE;4PEE;4NI;4SHOQ;4PUQ
4MVOP;4LOQ;4REN MUCH;4TI;4NTUU;4MBAA SEVEN;4SAQ;4FAA;3-E NDAP;4TOON;4MBEUM;4LAP;4VOM;4LOON;4PAA;4SOM;4RAQ;4NSHUOP
4NDUN;4PUAE;4TAM;4NGKA;4KPEUX;4WUO;4SEE;4NGGEUAET;4PAAM;4TOO;4KUOP;4LOM;4NSHIEE;4NGOP;4MAEM;4NGKEUX;4NGOQ;4NSHUE
4RIMGBA;4NJEUX;4PEEM;4SAA;4NGGURAE;4MGBA;4GHEUX;4NGKEUAEM;4NJAEMLI;4MAP;4LOOT;4NGGEEEE;4NDIQ;4TAEN NTEUM;4SET;4PUM
4NDAA SOFTNESS;4NGGUAESHAE NYAM;4YIEE;4GHEUN;4TUAE;4YEUAE;4PO;4TUMAE;4KEUAE;4SUAEN;4TEUAEQ;4VEUAE;4WEUX;4LAAM;4PU
4TAAQ;4GHAAMAE;4NGEUREUT;4SHEUAEQ;4MGBEN;4MBEE;4NZAQ;4NKOM;4GBET;4TUM;4KUET;4YAP;4NYI CLEAVER;4YIT;4MFEUQ;4NDIAQ
4PIEEQ;4YUEQ;4LEUAEM;4FUE;4GBEUX;4NGKUP;4KET;4MAE;4NGKAAMI;4GHET;4FA;4NTUM;4PEUT;4YEUM;4NGGEUAE;4NYI BETWEEN;4NZUQ
4POON;4MIEE;4FUET;4NAE;4MUAE;4GHEUAE;4FU I;4MVI;4PUAQ;4NGKUM;4KUT;4PIET;4NTAP;4YEUAET;4NGGUP;4PA PEOPLE;4FU CALL
4FOM;4NJEE;4A;4TOQ;4O;4I;4LAQ;4PA PLURAL;4TAA;4TAQ;4NDAA MY HOUSE;4SHIQ;4YEUX;4NGUAE;4YUAEN;4YOQ SWIMMING;5COVER
4YUQ;4YUN;4KEUX;4PEUX;4NJEE EPOCH;4PUE;4WUE;4FEE;4VEE;4LU;4MI;4REUX;4RAE;4NGUAET;4NGA;4SHO;4SHOQ;4FU REMEDY;4NA;4PI
4LOQ;4KO;4MEN;4MA;4MAQ;4TEU;4KI;4MON;4TEN;4FAQ;4GHOM;3-F KA;4U;4KU;4EE;4REE;4TAE;4NYI;4LA;4RII;4RIEE;4MEEEE;4TAA
4NDAA;4NJAEM;4M;4SUU;4SHII;4SI;4SEUX;4KYEE;4KET;4NUAE;4NU;4NJUAE;4YOQ;4SHU;4YA;4NSHA;4PEUX;4NTEE;4WUE;4PEE;4RU;4NI
4REUX;4KEN;4NGKWAEN;4NGGA;4SHO;4PUAE;4FOM;4WA;4LI;4LOQ;4KO;4MBEN;4REN;4MA;4MO;4MBAA;4TET;4KPA;4SAMBA;4VUEQ
16A40:MRO LETTER TA;2NGI;2YO;2MIM;2BA;2DA;2A;2PHI;2KHAI;2HAO;2DAI;2CHU;2KEAAE;2OL;2MAEM;2NIN;2PA;2OO;2O;2RO;2SHI
2THEA;2EA;2WA;2E;2KO;2LAN;2LA;2HAI;2RI;2TEK;16A60:1DIGIT ZERO;2ONE;2TWO;2THREE;2FOUR;2FIVE;2SIX;2SEVEN;2EIGHT;2NINE
16A6E:1DANDA;1DOUBLE DANDA;TANGSA LETTER OZ;2OC;2OQ;2OX;2AZ;2AC;2AQ;2AX;2VZ;2VC;2VQ;2VX;2EZ;2EC;2EQ;2EX;2IZ;2IC;2IQ
2IX;2UZ;2UC;2UQ;2UX;2AWZ;2AWC;2AWQ;2AWX;2UIZ;2UIC;2UIQ;2UIX;2FINAL NG;2LONG UEX;2SHORT UEZ;3AWX;2UEC;2UEZ;2UEQ;2UEX
2UIUZ;2UIUC;2UIUQ;2UIUX;2MZ;2MC;2MQ;2MX;2KA;2KHA;2GA;2NGA;2SA;2YA;2WA;2PA;2NYA;2PHA;2BA;2MA;2NA;2HA;2LA;2HTA;2TA;2DA
2RA;2NHA;2SHA;2CA;2TSA;2GHA;2HTTA;2THA;2XA;2FA;2DHA;2CHA;2ZA;16AC0:1DIGIT ZERO;2ONE;2TWO;2THREE;2FOUR;2FIVE;2SIX
2SEVEN;2EIGHT;2NINE;16AD0:BASSA VAH LETTER ENNI;3KA;3SE;3FA;3MBE;3YIE;3GAH;3DHII;3KPAH;3JO;3HWAH;3WA;3ZO;3GBU;3DO
3CE;3UWU;3TO;3BA;3VU;3YEIN;3PA;3WADDA;3A;3O;3OO;3U;3EE;3E;3I;16AF0:2COMBINING HIGH TONE;3LOW TONE;3MID TONE
3LOW-MID TONE;3HIGH-LOW TONE;2FULL STOP;16B00:PAHAWH HMONG VOWEL KEEB;3KEEV;3KIB;3KIV;3KAUB;3KAUV;3KUB;3KUV;3KEB
3KEV;3KAIB;3KAIV;3KOOB;3KOOV;3KAWB;3KAWV;3KUAB;3KUAV;3KOB;3KOV;3KIAB;3KIAV;3KAB;3KAV;3KWB;3KWV;3KAAB;3KAAV
2CONSONANT VAU;3NTSAU;3LAU;3HAU;3NLAU;3RAU;3NKAU;3QHAU;3YAU;3HLAU;3MAU;3CHAU;3NCHAU;3HNAU;3PLHAU;3NTHAU;3NAU;3AU
3XAU;3CAU;2MARK CIM TUB;4SO;4KES;4KHAV;4SUAM;4HOM;4TAUM;2SIGN VOS THOM;4TSHAB CEEB;3CIM CHEEM;3VOS THIAB;4FEEM
3XYEEM NTXIV;4RHO;4TOV;4FAIB;3VOS SEEV;3MEEJ SUAB;3VOS NRUA;3IB YAM;3XAUS;3CIM TSOV ROG;16B50:2DIGIT ZERO;3ONE;3TWO
3THREE;3FOUR;3FIVE;3SIX;3SEVEN;3EIGHT;3NINE;16B5B:2NUMBER TENS;3HUNDREDS;3TEN THOUSANDS;3MILLIONS;3HUNDRED MILLIONS
3TEN BILLIONS;3TRILLIONS;16B63:2SIGN VOS LUB;3XYOO;3HLI;3THIRD-STAGE HLI;3ZWJ THAJ;3HNUB;3NQIG;3XIAB;3NTUJ;3AV
3TXHEEJ CEEV;3MEEJ TSEEB;3TAU;3LOS;3MUS;3CIM HAIS LUS NTOG NTOG;4CUAM TSHOOJ;4TXWV;5CHWV;4PUB DAWB;4NRES TOS
16B7D:2CLAN SIGN TSHEEJ;4YEEG;4LIS;4LAUJ;4XYOOJ;4KOO;4HAWJ;4MUAS;4THOJ;4TSAB;4PHAB;4KHAB;4HAM;4VAJ;4FAJ;4YAJ;4TSWB
4KWM;4VWJ;16E40:MEDEFAIDRIN CAPITAL LETTER M;3S;3V;3W;3ATIU;3Z;3KP;3P;3T;3G;3F;3I;3K;3A;3J;3E;3B;3C;3U;3YU;3L;3Q;3HP
3NY;3X;3D;3OE;3N;3R;3O;3AI;3Y;1SMALL LETTER M;3S;3V;3W;3ATIU;3Z;3KP;3P;3T;3G;3F;3I;3K;3A;3J;3E;3B;3C;3U;3YU;3L;3Q
3HP;3NY;3X;3D;3OE;3N;3R;3O;3AI;3Y;1DIGIT ZERO;2ONE;2TWO;2THREE;2FOUR;2FIVE;2SIX;2SEVEN;2EIGHT;2NINE;1NUMBER TEN
2ELEVEN;2TWELVE;2THIRTEEN;2FOURTEEN;2FIFTEEN;2SIXTEEN;2SEVENTEEN;2EIGHTEEN;2NINETEEN;1DIGIT ONE ALTERNATE FORM
2TWO ALTERNATE FORM;2THREE ALTERNATE FORM;1COMMA;1FULL STOP;1SYMBOL AIVA;1EXCLAMATION OH;16F00:MIAO LETTER PA;2BA
2YI PA;2PLA;2MA;2MHA;2ARCHAIC MA;2FA;2VA;2VFA;2TA;2DA;2YI TTA;3TA;2TTA;2DDA;2NA;2NHA;2YI NNA;2ARCHAIC NA;2NNA;2NNHA
2LA;2LYA;2LHA;2LHYA;2TLHA;2DLHA;2TLHYA;2DLHYA;2KA;2GA;2YI KA;2QA;2QGA;2NGA;2NGHA;2ARCHAIC NGA;2HA;2XA;2GHA;2GHHA
2TSSA;2DZZA;2NYA;2NYHA;2TSHA;2DZHA;2YI TSHA;3DZHA;2REFORMED TSHA;2SHA;2SSA;2ZHA;2ZSHA;2TSA;2DZA;2YI TSA;2SA;2ZA;2ZSA
2ZZA;2ZZSA;2ARCHAIC ZZA;2ZZYA;2ZZSYA;2WA;2AH;2HHA;2BRI;2SYI;2DZYI;2TE;2TSE;2RTE;16F4F:1SIGN CONSONANT MODIFIER BAR
1LETTER NASALIZATION;1SIGN ASPIRATION;2REFORMED VOICING;3ASPIRATION;1VOWEL SIGN A;3AA;3AHH;3AN;3ANG;3O;3OO;3WO;3W;3E
3EN;3ENG;3OEY;3I;3IA;3IAN;3IANG;3IO;3IE;3II;3IU;3ING;3U;3UA;3UAN;3UANG;3UU;3UEI;3UNG;3Y;3YI;3AE;3AEE;3ERR
3ROUNDED ERR;3ER;3ROUNDED ER;3AI;3EI;3AU;3OU;3N;3NG;3UOG;3YUI;3OG;3OER;3VW;3IG;3EA;3IONG;3UI;16F8F:1TONE RIGHT
2TOP RIGHT;2ABOVE;2BELOW;1LETTER TONE-2;3-3;3-4;3-5;3-6;3-7;3-8;2REFORMED TONE-1;4-2;4-4;4-5;4-6;4-8
16FE0:TANGUT ITERATION MARK;NUSHU ITERATION MARK;OLD CHINESE HOOK MARK;2ITERATION MARK;KHITAN SMALL SCRIPT FILLER
16FF0:VIETNAMESE ALTERNATE READING MARK CA;4NHAY;18800:TANGUT COMPONENT-001;2-002;2-003;2-004;2-005;2-006;2-007
2-008;2-009;2-010;2-011;2-012;2-013;2-014;2-015;2-016;2-017;2-018;2-019;2-020;2-021;2-022;2-023;2-024;2-025;2-026
2-027;2-028;2-029;2-030;2-031;2-032;2-033;2-034;2-035;2-036;2-037;2-038;2-039;2-040;2-041;2-042;2-043;2-044;2-045
2-046;2-047;2-048;2-049;2-050;2-051;2-052;2-053;2-054;2-055;2-056;2-057;2-058;2-059;2-060;2-061;2-062;2-063;2-064
2-065;2-066;2-067;2-068;2-069;2-070;2-071;2-072;2-073;2-074;2-075;2-076;2-077;2-078;2-079;2-080;2-081;2-082;2-083
2-084;2-085;2-086;2-087;2-088;2-089;2-090;2-091;2-092;2-093;2-094;2-095;2-096;2-097;2-098;2-099;2-100;2-101;2-102
2-103;2-104;2-105;2-106;2-107;2-108;2-109;2-110;2-111;2-112;2-113;2-114;2-115;2-116;2-117;2-118;2-119;2-120;2-121
2-122;2-123;2-124;2-125;2-126;2-127;2-128;2-129;2-130;2-131;2-132;2-133;2-134;2-135;2-136;2-137;2-138;2-139;2-140
2-141;2-142;2-143;2-144;2-145;2-146;2-147;2-148;2-149;2-150;2-151;2-152;2-153;2-154;2-155;2-156;2-157;2-158;2-159
2-160;2-161;2-162;2-163;2-164;2-165;2-166;2-167;2-168;2-169;2-170;2-171;2-172;2-173;2-174;2-175;2-176;2-177;2-178
2-179;2-180;2-181;2-182;2-183;2-184;2-185;2-186;2-187;2-188;2-189;2-190;2-191;2-192;2-193;2-194;2-195;2-196;2-197
2-198;2-199;2-200;2-201;2-202;2-203;2-204;2-205;2-206;2-207;2-208;2-209;2-210;2-211;2-212;2-213;2-214;2-215;2-216
2-217;2-218;2-219;2-220;2-221;2-222;2-223;2-224;2-225;2-226;2-227;2-228;2-229;2-230;2-231;2-232;2-233;2-234;2-235
2-236;2-237;2-238;2-239;2-240;2-241;2-242;2-243;2-244;2-245;2-246;2-247;2-248;2-249;2-250;2-251;2-252;2-253;2-254
2-255;2-256;2-257;2-258;2-259;2-260;2-261;2-262;2-263;2-264;2-265;2-266;2-267;2-268;2-269;2-270;2-271;2-272;2-273
2-274;2-275;2-276;2-277;2-278;2-279;2-280;2-281;2-282;2-283;2-284;2-285;2-286;2-287;2-288;2-289;2-290;2-291;2-292
2-293;2-294;2-295;2-296;2-297;2-298;2-299;2-300;2-301;2-302;2-303;2-304;2-305;2-306;2-307;2-308;2-309;2-310;2-311
2-312;2-313;2-314;2-315;2-316;2-317;2-318;2-319;2-320;2-321;2-322;2-323;2-324;2-325;2-326;2-327;2-328;2-329;2-330
2-331;2-332;2-333;2-334;2-335;2-336;2-337;2-338;2-339;2-340;2-341;2-342;2-343;2-344;2-345;2-346;2-347;2-348;2-349
2-350;2-351;2-352;2-353;2-354;2-355;2-356;2-357;2-358;2-359;2-360;2-361;2-362;2-363;2-364;2-365;2-366;2-367;2-368
2-369;2-370;2-371;2-372;2-373;2-374;2-375;2-376;2-377;2-378;2-379;2-380;2-381;2-382;2-383;2-384;2-385;2-386;2-387
2-388;2-389;2-390;2-391;2-392;2-393;2-394;2-395;2-396;2-397;2-398;2-399;2-400;2-401;2-402;2-403;2-404;2-405;2-406
2-407;2-408;2-409;2-410;2-411;2-412;2-413;2-414;2-415;2-416;2-417;2-418;2-419;2-420;2-421;2-422;2-423;2-424;2-425
2-426;2-427;2-428;2-429;2-430;2-431;2-432;2-433;2-434;2-435;2-436;2-437;2-438;2-439;2-440;2-441;2-442;2-443;2-444
2-445;2-446;2-447;2-448;2-449;2-450;2-451;2-452;2-453;2-454;2-455;2-456;2-457;2-458;2-459;2-460;2-461;2-462;2-463
2-464;2-465;2-466;2-467;2-468;2-469;2-470;2-471;2-472;2-473;2-474;2-475;2-476;2-477;2-478;2-479;2-480;2-481;2-482
2-483;2-484;2-485;2-486;2-487;2-488;2-489;2-490;2-491;2-492;2-493;2-494;2-495;2-496;2-497;2-498;2-499;2-500;2-501
2-502;2-503;2-504;2-505;2-506;2-507;2-508;2-509;2-510;2-511;2-512;2-513;2-514;2-515;2-516;2-517;2-518;2-519;2-520
2-521;2-522;2-523;2-524;2-525;2-526;2-527;2-528;2-529;2-530;2-531;2-532;2-533;2-534;2-535;2-536;2-537;2-538;2-539
2-540;2-541;2-542;2-543;2-544;2-545;2-546;2-547;2-548;2-549;2-550;2-551;2-552;2-553;2-554;2-555;2-556;2-557;2-558
2-559;2-560;2-561;2-562;2-563;2-564;2-565;2-566;2-567;2-568;2-569;2-570;2-571;2-572;2-573;2-574;2-575;2-576;2-577
2-578;2-579;2-580;2-581;2-582;2-583;2-584;2-585;2-586;2-587;2-588;2-589;2-590;2-591;2-592;2-593;2-594;2-595;2-596
2-597;2-598;2-599;2-600;2-601;2-602;2-603;2-604;2-605;2-606;2-607;2-608;2-609;2-610;2-611;2-612;2-613;2-614;2-615
2-616;2-617;2-618;2-619;2-620;2-621;2-622;2-623;2-624;2-625;2-626;2-627;2-628;2-629;2-630;2-631;2-632;2-633;2-634
2-635;2-636;2-637;2-638;2-639;2-640;2-641;2-642;2-643;2-644;2-645;2-646;2-647;2-648;2-649;2-650;2-651;2-652;2-653
2-654;2-655;2-656;2-657;2-658;2-659;2-660;2-661;2-662;2-663;2-664;2-665;2-666;2-667;2-668;2-669;2-670;2-671;2-672
2-673;2-674;2-675;2-676;2-677;2-678;2-679;2-680;2-681;2-682;2-683;2-684;2-685;2-686;2-687;2-688;2-689;2-690;2-691
2-692;2-693;2-694;2-695;2-696;2-697;2-698;2-699;2-700;2-701;2-702;2-703;2-704;2-705;2-706;2-707;2-708;2-709;2-710
2-711;2-712;2-713;2-714;2-715;2-716;2-717;2-718;2-719;2-720;2-721;2-722;2-723;2-724;2-725;2-726;2-727;2-728;2-729
2-730;2-731;2-732;2-733;2-734;2-735;2-736;2-737;2-738;2-739;2-740;2-741;2-742;2-743;2-744;2-745;2-746;2-747;2-748
2-749;2-750;2-751;2-752;2-753;2-754;2-755;2-756;2-757;2-758;2-759;2-760;2-761;2-762;2-763;2-764;2-765;2-766;2-767
2-768;KHITAN SMALL SCRIPT CHARACTER-*;4-*;4-*;4-*;4-*;4-*;4-*;4-*;4-*;4-*;4-*;4-*;4-*;4-*;4-*;4-*;4-*;4-*;4-*;4-*
4-*;4-*;4-*;4-*;4-*;4-*;4-*;4-*;4-*;4-*;4-*;4-*;4-*;4-*;4-*;4-*;4-*;4-*;4-*;4-*;4-*;4-*;4-*;4-*;4-*;4-*;4-*;4-*;4-*
4-*;4-*;4-*;4-*;4-*;4-*;4-*;4-*;4-*;4-*;4-*;4-*;4-*;4-*;4-*;4-*;4-*;4-*;4-*;4-*;4-*;4-*;4-*;4-*;4-*;4-*;4-*;4-*;4-*
4-*;4-*;4-*;4-*;4-*;4-*;4-*;4-*;4-*;4-*;4-*;4-*;4-*;4-*;4-*;4-*;4-*;4-*;4-*;4-*;4-*;4-*;4-*;4-*;4-*;4-*;4-*;4-*;4-*
4-*;4-*;4-*;4-*;4-*;4-*;4-*;4-*;4-*;4-*;4-*;4-*;4-*;4-*;4-*;4-*;4-*;4-*;4-*;4-*;4-*;4-*;4-*;4-*;4-*;4-*;4-*;4-*;4-*
4-*;4-*;4-*;4-*;4-*;4-*;4-*;4-*;4-*;4-*;4-*;4-*;4-*;4-*;4-*;4-*;4-*;4-*;4-*;4-*;4-*;4-*;4-*;4-*;4-*;4-*;4-*;4-*;4-*
4-*;4-*;4-*;4-*;4-*;4-*;4-*;4-*;4-*;4-*;4-*;4-*;4-*;4-*;4-*;4-*;4-*;4-*;4-*;4-*;4-*;4-*;4-*;4-*;4-*;4-*;4-*;4-*;4-*
4-*;4-*;4-*;4-*;4-*;4-*;4-*;4-*;4-*;4-*;4-*;4-*;4-*;4-*;4-*;4-*;4-*;4-*;4-*;4-*;4-*;4-*;4-*;4-*;4-*;4-*;4-*;4-*;4-*
4-*;4-*;4-*;4-*;4-*;4-*;4-*;4-*;4-*;4-*;4-*;4-*;4-*;4-*;4-*;4-*;4-*;4-*;4-*;4-*;4-*;4-*;4-*;4-*;4-*;4-*;4-*;4-*;4-*
4-*;4-*;4-*;4-*;4-*;4-*;4-*;4-*;4-*;4-*;4-*;4-*;4-*;4-*;4-*;4-*;4-*;4-*;4-*;4-*;4-*;4-*;4-*;4-*;4-*;4-*;4-*;4-*;4-*
4-*;4-*;4-*;4-*;4-*;4-*;4-*;4-*;4-*;4-*;4-*;4-*;4-*;4-*;4-*;4-*;4-*;4-*;4-*;4-*;4-*;4-*;4-*;4-*;4-*;4-*;4-*;4-*;4-*
4-*;4-*;4-*;4-*;4-*;4-*;4-*;4-*;4-*;4-*;4-*;4-*;4-*;4-*;4-*;4-*;4-*;4-*;4-*;4-*;4-*;4-*;4-*;4-*;4-*;4-*;4-*;4-*;4-*
4-*;4-*;4-*;4-*;4-*;4-*;4-*;4-*;4-*;4-*;4-*;4-*;4-*;4-*;4-*;4-*;4-*;4-*;4-*;4-*;4-*;4-*;4-*;4-*;4-*;4-*;4-*;4-*;4-*
4-*;4-*;4-*;4-*;4-*;4-*;4-*;4-*;4-*;4-*;4-*;4-*;4-*;4-*;4-*;4-*;4-*;4-*;4-*;4-*;4-*;4-*;4-*;4-*;4-*;4-*;4-*;4-*;4-*
4-*;4-*;4-*;4-*;4-*;4-*;4-*;4-*;4-*;4-*;4-*;4-*;4-*;4-*;4-*;4-*;4-*;4-*;4-*;4-*;4-*;4-*;4-*;4-*;4-*;4-*;4-*;4-*;4-*
4-*;4-*;4-*;4-*;4-*;4-*;4-*;4-*;4-*;4-*;4-*;4-*;4-*;4-*;4-*;4-*;4-*;4-*;4-*;4-*;4-*;4-*;4-*;4-*;4-*;4-*;4-*;4-*;4-*
4-*;4-*;4-*;4-*;4-*;4-*;4-*;4-*;4-*;4-*;4-*;4-*;4-*;4-*;4-*;1AFF0:KATAKANA LETTER MINNAN TONE-2;4-3;4-4;4-5
1AFF5:4-7;4-8;3NASALIZED TONE-1;5-2;5-3;5-4;5-5;1AFFD:5-7;5-8;1B000:2ARCHAIC E;HIRAGANA LETTER ARCHAIC YE
HENTAIGANA LETTER A-1;3-2;3-3;3-WO;2I-1;3-2;3-3;3-4;2U-1;3-2;3-3;3-4;3-5;2E-2;3-3;3-4;3-5;3-6;2O-1;3-2;3-3;2KA-1;3-2
3-3;3-4;3-5;3-6;3-7;3-8;3-9;3-10;3-11;3-KE;2KI-1;3-2;3-3;3-4;3-5;3-6;3-7;3-8;2KU-1;3-2;3-3;3-4;3-5;3-6;3-7;2KE-1;3-2
3-3;3-4;3-5;3-6;2KO-1;3-2;3-3;3-KI;2SA-1;3-2;3-3;3-4;3-5;3-6;3-7;3-8;2SI-1;3-2;3-3;3-4;3-5;3-6;2SU-1;3-2;3-3;3-4;3-5
3-6;3-7;3-8;2SE-1;3-2;3-3;3-4;3-5;2SO-1;3-2;3-3;3-4;3-5;3-6;3-7;2TA-1;3-2;3-3;3-4;2TI-1;3-2;3-3;3-4;3-5;3-6;3-7
2TU-1;3-2;3-3;3-4;3-TO;2TE-1;3-2;3-3;3-4;3-5;3-6;3-7;3-8;3-9;2TO-1;3-2;3-3;3-4;3-5;3-6;3-RA;2NA-1;3-2;3-3;3-4;3-5
3-6;3-7;3-8;3-9;2NI-1;3-2;3-3;3-4;3-5;3-6;3-7;3-TE;2NU-1;3-2;3-3;2NE-1;3-2;3-3;3-4;3-5;3-6;3-KO;2NO-1;3-2;3-3;3-4
3-5;2HA-1;3-2;3-3;3-4;3-5;3-6;3-7;3-8;3-9;3-10;3-11;2HI-1;3-2;3-3;3-4;3-5;3-6;3-7;2HU-1;3-2;3-3;2HE-1;3-2;3-3;3-4
3-5;3-6;3-7;2HO-1;3-2;3-3;3-4;3-5;3-6;3-7;3-8;2MA-1;3-2;3-3;3-4;3-5;3-6;3-7;2MI-1;3-2;3-3;3-4;3-5;3-6;3-7;2MU-1;3-2
3-3;3-4;2ME-1;3-2;3-MA;2MO-1;3-2;3-3;3-4;3-5;3-6;2YA-1;3-2;3-3;3-4;3-5;3-YO;2YU-1;3-2;3-3;3-4;2YO-1;3-2;3-3;3-4;3-5
3-6;2RA-1;3-2;3-3;3-4;2RI-1;3-2;3-3;3-4;3-5;3-6;3-7;2RU-1;3-2;3-3;3-4;3-5;3-6;2RE-1;3-2;3-3;3-4;2RO-1;3-2;3-3;3-4
3-5;3-6;2WA-1;3-2;3-3;3-4;3-5;2WI-1;3-2;3-3;3-4;3-5;2WE-1;3-2;3-3;3-4;2WO-1;3-2;3-3;3-4;3-5;3-6;3-7;2N-MU-MO-1;5-2
HIRAGANA LETTER ARCHAIC WU;KATAKANA LETTER ARCHAIC YI;3YE;3WU;1B150:HIRAGANA LETTER SMALL WI;3WE;3WO
1B164:KATAKANA LETTER SMALL WI;3WE;3WO;3N;1B170:NUSHU CHARACTER-*;2-*;2-*;2-*;2-*;2-*;2-*;2-*;2-*;2-*;2-*;2-*;2-*
2-*;2-*;2-*;2-*;2-*;2-*;2-*;2-*;2-*;2-*;2-*;2-*;2-*;2-*;2-*;2-*;2-*;2-*;2-*;2-*;2-*;2-*;2-*;2-*;2-*;2-*;2-*;2-*;2-*
2-*;2-*;2-*;2-*;2-*;2-*;2-*;2-*;2-*;2-*;2-*;2-*;2-*;2-*;2-*;2-*;2-*;2-*;2-*;2-*;2-*;2-*;2-*;2-*;2-*;2-*;2-*;2-*;2-*
2-*;2-*;2-*;2-*;2-*;2-*;2-*;2-*;2-*;2-*;2-*;2-*;2-*;2-*;2-*;2-*;2-*;2-*;2-*;2-*;2-*;2-*;2-*;2-*;2-*;2-*;2-*;2-*;2-*
2-*;2-*;2-*;2-*;2-*;2-*;2-*;2-*;2-*;2-*;2-*;2-*;2-*;2-*;2-*;2-*;2-*;2-*;2-*;2-*;2-*;2-*;2-*;2-*;2-*;2-*;2-*;2-*;2-*
2-*;2-*;2-*;2-*;2-*;2-*;2-*;2-*;2-*;2-*;2-*;2-*;2-*;2-*;2-*;2-*;2-*;2-*;2-*;2-*;2-*;2-*;2-*;2-*;2-*;2-*;2-*;2-*;2-*
2-*;2-*;2-*;2-*;2-*;2-*;2-*;2-*;2-*;2-*;2-*;2-*;2-*;2-*;2-*;2-*;2-*;2-*;2-*;2-*;2-*;2-*;2-*;2-*;2-*;2-*;2-*;2-*;2-*
2-*;2-*;2-*;2-*;2-*;2-*;2-*;2-*;2-*;2-*;2-*;2-*;2-*;2-*;2-*;2-*;2-*;2-*;2-*;2-*;2-*;2-*;2-*;2-*;2-*;2-*;2-*;2-*;2-*
2-*;2-*;2-*;2-*;2-*;2-*;2-*;2-*;2-*;2-*;2-*;2-*;2-*;2-*;2-*;2-*;2-*;2-*;2-*;2-*;2-*;2-*;2-*;2-*;2-*;2-*;2-*;2-*;2-*
2-*;2-*;2-*;2-*;2-*;2-*;2-*;2-*;2-*;2-*;2-*;2-*;2-*;2-*;2-*;2-*;2-*;2-*;2-*;2-*;2-*;2-*;2-*;2-*;2-*;2-*;2-*;2-*;2-*
2-*;2-*;2-*;2-*;2-*;2-*;2-*;2-*;2-*;2-*;2-*;2-*;2-*;2-*;2-*;2-*;2-*;2-*;2-*;2-*;2-*;2-*;2-*;2-*;2-*;2-*;2-*;2-*;2-*
2-*;2-*;2-*;2-*;2-*;2-*;2-*;2-*;2-*;2-*;2-*;2-*;2-*;2-*;2-*;2-*;2-*;2-*;2-*;2-*;2-*;2-*;2-*;2-*;2-*;2-*;2-*;2-*;2-*
2-*;2-*;2-*;2-*;2-*;2-*;2-*;2-*;2-*;2-*;2-*;2-*;2-*;2-*;2-*;2-*;2-*;2-*;2-*;2-*;2-*;2-*;2-*;2-*;2-*;2-*;2-*;2-*;2-*
2-*;2-*;2-*;2-*;2-*;2-*;2-*;2-*;2-*;2-*;2-*;2-*;2-*;2-*;2-*;2-*;2-*;2-*;2-*;2-*;2-*;2-*;2-*;2-*;2-*;2-*;2-*;2-*;2-*
2-*;2-*;2-*;2-*;2-*;2-*;1BC00:DUPLOYAN LETTER H;2X;2P;2T;2F;2K;2L;2B;2D;2V;2G;2R;2P N;2D S;2F N;2K M;2R S;2TH
2SLOAN DH;2DH;2KK;2SLOAN J;2HL;2LH;2RH;2M;2N;2J;2S;2M N;2N M;2J M;2S J;2M WITH DOT;2N WITH DOT;2J WITH DOT
4DOTS INSIDE AND ABOVE;2S WITH DOT;5BELOW;2M S;2N S;2J S;2S S;2M N S;2N M S;2J M S;2S J S;2J S WITH DOT;3N;4S;2S T
4R;3P;4R;2T S;3R S;2W;2WH;2W R;2S N;3M;2K R S;2G R S;2S K;4R;2A;2SLOAN OW;2OA;2O;2AOU;2I;2E;2IE;2SHORT I;2UI;2EE
2SLOAN EH;2ROMANIAN I;2SLOAN EE;2LONG I;2YE;2U;2EU;2XW;2U N;2LONG U;2ROMANIAN U;2UH;2SLOAN U;2OOH;2OW;2OU;2WA;2WO
2WI;2WEI;2WOW;2NASAL U;3O;3I;3A;2PERNIN AN;3AM;2SLOAN EN;3AN;3ON;2VOCALIC M;1BC70:1AFFIX LEFT HORIZONTAL SECANT
2MID HORIZONTAL SECANT;2RIGHT HORIZONTAL SECANT;2LOW VERTICAL SECANT;2MID VERTICAL SECANT;2HIGH VERTICAL SECANT
2ATTACHED SECANT;3LEFT-TO-RIGHT SECANT;3TANGENT;3TAIL;3E HOOK;3I HOOK;3TANGENT HOOK;1BC80:2HIGH ACUTE;3TIGHT ACUTE
3GRAVE;3LONG GRAVE;3DOT;3CIRCLE;3LINE;3WAVE;3VERTICAL;1BC90:2LOW ACUTE;3TIGHT ACUTE;3GRAVE;3LONG GRAVE;3DOT;3CIRCLE
3LINE;3WAVE;3VERTICAL;3ARROW;1BC9C:1SIGN O WITH CROSS;1THICK LETTER SELECTOR;1DOUBLE MARK
1PUNCTUATION CHINOOK FULL STOP;SHORTHAND FORMAT LETTER OVERLAP;2CONTINUING OVERLAP;2DOWN STEP;2UP STEP
1CF00:ZNAMENNY COMBINING MARK GORAZDO NIZKO S KRYZHEM ON LEFT;3NIZKO S KRYZHEM ON LEFT;3TSATA ON LEFT
3GORAZDO NIZKO ON LEFT;3NIZKO ON LEFT;3SREDNE ON LEFT;3MALO POVYSHE ON LEFT;3POVYSHE ON LEFT;3VYSOKO ON LEFT
3MALO POVYSHE S KHOKHLOM ON LEFT;3POVYSHE S KHOKHLOM ON LEFT;3VYSOKO S KHOKHLOM ON LEFT
3GORAZDO NIZKO S KRYZHEM ON RIGHT;3NIZKO S KRYZHEM ON RIGHT;3TSATA ON RIGHT;3GORAZDO NIZKO ON RIGHT;3NIZKO ON RIGHT
3SREDNE ON RIGHT;3MALO POVYSHE ON RIGHT;3POVYSHE ON RIGHT;3VYSOKO ON RIGHT;3MALO POVYSHE S KHOKHLOM ON RIGHT
3POVYSHE S KHOKHLOM ON RIGHT;3VYSOKO S KHOKHLOM ON RIGHT;3TSATA S KRYZHEM;3MALO POVYSHE S KRYZHEM
3STRANNO MALO POVYSHE;3POVYSHE S KRYZHEM;4STRANNO;3VYSOKO S KRYZHEM;3MALO POVYSHE STRANNO;3GORAZDO VYSOKO;3ZELO;3ON
3RAVNO;3TIKHAYA;3BORZAYA;3UDARKA;3PODVERTKA;3LOMKA;3KUPNAYA;3KACHKA;3ZEVOK;3SKOBA;3RAZSEKA;3KRYZH ON LEFT
1CF30:2TONAL RANGE MARK MRACHNO;5SVETLO;5TRESVETLO;2MARK ZADERZHKA;3DEMESTVENNY ZADERZHKA;3OTSECHKA;3PODCHASHIE
4WITH VERTICAL STROKE;3CHASHKA;4POLNAYA;3OBLACHKO;3SOROCHYA NOZHKA;3TOCHKA;3DVOETOCHIE;2ATTACHING VERTICAL OMET
2MARK CURVED OMET;3KRYZH;2LOWER TONAL RANGE INDICATOR;1PRIZNAK MODIFIER LEVEL-2;4-3;3DIRECTION FLIP;3KRYZH;3ROG
1CF50:1NEUME KRYUK;3TIKHY;2PARAKLIT;2DVA V CHELNU;2KLYUCH;2ZANOZHEK;2STOPITSA;3S OCHKOM;2PEREVODKA;3NEPOSTOYANNAYA
2STOPITSA WITH SOROCHYA NOZHKA;2CHELYUSTKA;2PALKA;2ZAPYATAYA;2GOLUBCHIK BORZY;3TIKHY;3MRACHNY;3SVETLY;3TRESVETLY
2VRAKHIYA PROSTAYA;3MRACHNAYA;3SVETLAYA;3TRESVETLAYA;3KLYUCHEVAYA PROSTAYA;4MRACHNAYA;4SVETLAYA;4TRESVETLAYA
2DOUBLE ZAPYATAYA;2REVERSED CHELYUSTKA;2DERBITSA;2KHAMILO;2CHASHKA;2PODCHASHIE;2SKAMEYTSA MRACHNAYA;3SVETLAYA
3TRESVETLAYA;3TIKHAYA;2DEMESTVENNY KLYUCH;2SKAMEYTSA KLYUCHEVAYA SVETLAYA;3KLYUCHENEPOSTOYANNAYA
3KLYUCHEVAYA TIKHAYA;3DVOECHELNAYA PROSTAYA;4SVETLAYA;4NEPOSTOYANNAYA;4KLYUCHEVAYA;2SLOZHITIE;3S ZAPYATOY;3ZAKRYTOE
3S KRYZHEM;2KRYZH;2ROG;2FITA;2KOBYLA;2ZMEYTSA;2STATYA;3S ZAPYATOY;4KRYZHEM;4ZAPYATOY I KRYZHEM;4KRYZHEM I ZAPYATOY
3ZAKRYTAYA;4S ZAPYATOY;3S ROGOM;4DVUMYA ZAPYATYMI;4ZAPYATOY I PODCHASHIEM;2POLKULIZMY;2STATYA NEPOSTOYANNAYA
2STRELA PROSTAYA;3MRACHNOTIKHAYA;3KRYZHEVAYA;3POLUPOVODNAYA;3POVODNAYA;3NEPOSTOYANNAYA;3KLYUCHEPOVODNAYA
3KLYUCHENEPOSTOYANNAYA;3TIKHAYA PUTNAYA;3DVOECHELNAYA;3DVOECHELNOKRYZHEVAYA;3DVOECHELNOPOVODNAYA
3DVOECHELNAYA KLYUCHEVAYA;3DVOECHELNOPOVODNAYA KLYUCHEVAYA;3GROMNAYA WITH SINGLE ZAPYATAYA
3GROMOPOVODNAYA WITH SINGLE ZAPYATAYA;3GROMNAYA;3GROMOPOVODNAYA;4WITH DOUBLE ZAPYATAYA;3GROMOKRYZHEVAYA;4POVODNAYA
2MECHIK;3POVODNY;3KLYUCHEVOY;3KLYUCHEPOVODNY;3KLYUCHENEPOSTOYANNY;2STRELA TRYASOGLASNAYA;3TRYASOPOVODNAYA
3TRYASOSTRELNAYA;2OSOKA;3SVETLAYA;3TRESVETLAYA;3KRYUKOVAYA SVETLAYA;3KLYUCHEVAYA SVETLAYA;4NEPOSTOYANNAYA
2STRELA KRYUKOVAYA;4POVODNAYA;4GROMNAYA WITH SINGLE ZAPYATAYA;4GROMOPOVODNAYA WITH SINGLE ZAPYATAYA;4GROMNAYA
4GROMOPOVODNAYA;5WITH DOUBLE ZAPYATAYA;4GROMOKRYZHEVAYA;5POVODNAYA;4TRYASKA;2KUFISMA;2OBLAKO;2DUDA;2NEMKA;2PAUK
1D000:BYZANTINE MUSICAL SYMBOL PSILI;3DASEIA;3PERISPOMENI;3OXEIA EKFONITIKON;4DIPLI;3VAREIA EKFONITIKON;4DIPLI
3KATHISTI;3SYRMATIKI;3PARAKLITIKI;3YPOKRISIS;4DIPLI;3KREMASTI;3APESO EKFONITIKON;3EXO EKFONITIKON;3TELEIA;3KENTIMATA
3APOSTROFOS;4DIPLI;3SYNEVMA;3THITA;3OLIGON ARCHAION;3GORGON ARCHAION;3PSILON;3CHAMILON;3VATHY;3ISON ARCHAION
3KENTIMA ARCHAION;3KENTIMATA ARCHAION;3SAXIMATA;3PARICHON;3STAVROS APODEXIA;3OXEIAI ARCHAION;3VAREIAI ARCHAION
3APODERMA ARCHAION;3APOTHEMA;3KLASMA;3REVMA;3PIASMA ARCHAION;3TINAGMA;3ANATRICHISMA;3SEISMA;3SYNAGMA ARCHAION
4META STAVROU;3OYRANISMA ARCHAION;3THEMA;3LEMOI;3DYO;3TRIA;3TESSERA;3KRATIMATA;3APESO EXO NEO;3FTHORA ARCHAION
3IMIFTHORA;3TROMIKON ARCHAION;3KATAVA TROMIKON;3PELASTON;3PSIFISTON;3KONTEVMA;3CHOREVMA ARCHAION;3RAPISMA
3PARAKALESMA ARCHAION;3PARAKLITIKI ARCHAION;3ICHADIN;3NANA;3PETASMA;3KONTEVMA ALLO;3TROMIKON ALLO;3STRAGGISMATA
3GRONTHISMATA;3ISON NEO;3OLIGON NEO;3OXEIA NEO;3PETASTI;3KOUFISMA;3PETASTOKOUFISMA;3KRATIMOKOUFISMA;3PELASTON NEO
3KENTIMATA NEO ANO;3KENTIMA NEO ANO;3YPSILI;3APOSTROFOS NEO;3APOSTROFOI SYNDESMOS NEO;3YPORROI;3KRATIMOYPORROON
3ELAFRON;3CHAMILI;3MIKRON ISON;3VAREIA NEO;3PIASMA NEO;3PSIFISTON NEO;3OMALON;3ANTIKENOMA;3LYGISMA;3PARAKLITIKI NEO
3PARAKALESMA NEO;3ETERON PARAKALESMA;3KYLISMA;3ANTIKENOKYLISMA;3TROMIKON NEO;3EKSTREPTON;3SYNAGMA NEO;3SYRMA
3CHOREVMA NEO;3EPEGERMA;3SEISMA NEO;3XIRON KLASMA;3TROMIKOPSIFISTON;3PSIFISTOLYGISMA;3TROMIKOLYGISMA
3TROMIKOPARAKALESMA;3PSIFISTOPARAKALESMA;3TROMIKOSYNAGMA;3PSIFISTOSYNAGMA;3GORGOSYNTHETON;3ARGOSYNTHETON
3ETERON ARGOSYNTHETON;3OYRANISMA NEO;3THEMATISMOS ESO;4EXO;3THEMA APLOUN;3THES KAI APOTHES;3KATAVASMA;3ENDOFONON
3YFEN KATO;4ANO;3STAVROS;3KLASMA ANO;3DIPLI ARCHAION;3KRATIMA ARCHAION;4ALLO;4NEO;3APODERMA NEO;3APLI;3DIPLI;3TRIPLI
3TETRAPLI;3KORONIS;3LEIMMA ENOS CHRONOU;4DYO CHRONON;4TRION CHRONON;4TESSARON CHRONON;4IMISEOS CHRONOU
3GORGON NEO ANO;4PARESTIGMENON ARISTERA;5DEXIA;3DIGORGON;4PARESTIGMENON ARISTERA KATO;6ANO;5DEXIA;3TRIGORGON;3ARGON
3IMIDIARGON;3DIARGON;3AGOGI POLI ARGI;4ARGOTERI;4ARGI;4METRIA;4MESI;4GORGI;4GORGOTERI;4POLI GORGI
3MARTYRIA PROTOS ICHOS;4ALLI PROTOS ICHOS;4DEYTEROS ICHOS;4ALLI DEYTEROS ICHOS;4TRITOS ICHOS;4TRIFONIAS
4TETARTOS ICHOS;5LEGETOS ICHOS;4LEGETOS ICHOS;4PLAGIOS ICHOS;3ISAKIA TELOUS ICHIMATOS;3APOSTROFOI TELOUS ICHIMATOS
3FANEROSIS TETRAFONIAS;4MONOFONIAS;4DIFONIAS;3MARTYRIA VARYS ICHOS;4PROTOVARYS ICHOS;4PLAGIOS TETARTOS ICHOS
3GORTHMIKON N APLOUN;5DIPLOUN;3ENARXIS KAI FTHORA VOU;3IMIFONON;3IMIFTHORON;3FTHORA ARCHAION DEYTEROU ICHOU
4DIATONIKI PA;5NANA;4NAOS ICHOS;4DIATONIKI DI;4SKLIRON DIATONON DI;4DIATONIKI KE;5ZO;5NI KATO;6ANO
4MALAKON CHROMA DIFONIAS;6MONOFONIAS;3FHTORA SKLIRON CHROMA VASIS;3FTHORA SKLIRON CHROMA SYNAFI;4NENANO;3CHROA ZYGOS
4KLITON;4SPATHI;3FTHORA I YFESIS TETARTIMORION;4ENARMONIOS ANTIFONIA;3YFESIS TRITIMORION;3DIESIS TRITIMORION
4TETARTIMORION;4APLI DYO DODEKATA;4MONOGRAMMOS TESSERA DODEKATA;4DIGRAMMOS EX DODEKATA;4TRIGRAMMOS OKTO DODEKATA
3YFESIS APLI DYO DODEKATA;4MONOGRAMMOS TESSERA DODEKATA;4DIGRAMMOS EX DODEKATA;4TRIGRAMMOS OKTO DODEKATA
3GENIKI DIESIS;4YFESIS;3DIASTOLI APLI MIKRI;5MEGALI;4DIPLI;4THESEOS;3SIMANSIS THESEOS;5DISIMOU;5TRISIMOU;5TETRASIMOU
4ARSEOS;5DISIMOU;5TRISIMOU;5TETRASIMOU;3DIGRAMMA GG;3DIFTOGGOS OU;3STIGMA;3ARKTIKO PA;4VOU;4GA;4DI;4KE;4ZO;4NI
3KENTIMATA NEO MESO;3KENTIMA NEO MESO;3KENTIMATA NEO KATO;3KENTIMA NEO KATO;3KLASMA KATO;3GORGON NEO KATO
1D100:MUSICAL SYMBOL SINGLE BARLINE;2DOUBLE BARLINE;2FINAL BARLINE;2REVERSE FINAL BARLINE;2DASHED BARLINE
2SHORT BARLINE;2LEFT REPEAT SIGN;2RIGHT REPEAT SIGN;2REPEAT DOTS;2DAL SEGNO;2DA CAPO;2SEGNO;2CODA;2REPEATED FIGURE-1
4-2;4-3;2FERMATA;3BELOW;2BREATH MARK;2CAESURA;2BRACE;2BRACKET;2ONE-LINE STAFF;2TWO-LINE STAFF;2THREE-LINE STAFF
2FOUR-LINE STAFF;2FIVE-LINE STAFF;2SIX-LINE STAFF;3-STRING FRETBOARD;2FOUR-STRING FRETBOARD;2G CLEF;4OTTAVA ALTA
5BASSA;2C CLEF;2F CLEF;4OTTAVA ALTA;5BASSA;2DRUM CLEF-1;4-2;1D129:2MULTIPLE MEASURE REST;2DOUBLE SHARP;3FLAT
2FLAT UP;3DOWN;2NATURAL UP;3DOWN;2SHARP UP;3DOWN;2QUARTER TONE SHARP;4FLAT;2COMMON TIME;2CUT TIME;2OTTAVA ALTA
3BASSA;2QUINDICESIMA ALTA;3BASSA;2MULTI REST;2WHOLE REST;2HALF REST;2QUARTER REST;2EIGHTH REST;2SIXTEENTH REST
2THIRTY-SECOND REST;2SIXTY-FOURTH REST;2ONE HUNDRED TWENTY-EIGHTH REST;2X NOTEHEAD;2PLUS NOTEHEAD;2CIRCLE X NOTEHEAD
2SQUARE NOTEHEAD WHITE;4BLACK;2TRIANGLE NOTEHEAD UP WHITE;5BLACK;4LEFT WHITE;5BLACK;4RIGHT WHITE;5BLACK;4DOWN WHITE
5BLACK;4UP RIGHT WHITE;6BLACK;2MOON NOTEHEAD WHITE;4BLACK;2TRIANGLE-ROUND NOTEHEAD DOWN WHITE;6BLACK
2PARENTHESIS NOTEHEAD;2VOID NOTEHEAD;2NOTEHEAD BLACK;2NULL NOTEHEAD;2CLUSTER NOTEHEAD WHITE;4BLACK;2BREVE
2WHOLE NOTE;2HALF NOTE;2QUARTER NOTE;2EIGHTH NOTE;2SIXTEENTH NOTE;2THIRTY-SECOND NOTE;2SIXTY-FOURTH NOTE
2ONE HUNDRED TWENTY-EIGHTH NOTE;2COMBINING STEM;3SPRECHGESANG STEM;3TREMOLO-1;4-2;4-3;2FINGERED TREMOLO-1;4-2;4-3
2COMBINING AUGMENTATION DOT;3FLAG-1;4-2;4-3;4-4;4-5;2BEGIN BEAM;2END BEAM;2BEGIN TIE;2END TIE;2BEGIN SLUR;2END SLUR
2BEGIN PHRASE;2END PHRASE;2COMBINING ACCENT;3STACCATO;3TENUTO;3STACCATISSIMO;3MARCATO;4-STACCATO;3ACCENT-STACCATO
3LOURE;2ARPEGGIATO UP;3DOWN;2COMBINING DOIT;3RIP;3FLIP;3SMEAR;3BEND;3DOUBLE TONGUE;3TRIPLE TONGUE;2RINFORZANDO
2SUBITO;2Z;2PIANO;2MEZZO;2FORTE;2CRESCENDO;2DECRESCENDO;2GRACE NOTE SLASH;4NO SLASH;2TR;2TURN;2INVERTED TURN
2TURN SLASH;3UP;2ORNAMENT STROKE-1;4-2;4-3;4-4;4-5;4-6;4-7;4-8;4-9;4-10;4-11;2HAUPTSTIMME;2NEBENSTIMME
2END OF STIMME;2DEGREE SLASH;2COMBINING DOWN BOW;3UP BOW;3HARMONIC;3SNAP PIZZICATO;2PEDAL MARK;3UP MARK
2HALF PEDAL MARK;2GLISSANDO UP;3DOWN;2WITH FINGERNAILS;2DAMP;3ALL;2MAXIMA;2LONGA;2BREVIS;2SEMIBREVIS WHITE;3BLACK
2MINIMA;3BLACK;2SEMIMINIMA WHITE;3BLACK;2FUSA WHITE;3BLACK;2LONGA PERFECTA REST;3IMPERFECTA REST;2BREVIS REST
2SEMIBREVIS REST;2MINIMA REST;2SEMIMINIMA REST;2TEMPUS PERFECTUM CUM PROLATIONE PERFECTA;6IMPERFECTA
6PERFECTA DIMINUTION-1;3IMPERFECTUM CUM PROLATIONE PERFECTA;6IMPERFECTA;7DIMINUTION-1;8-2;8-3;2CROIX
2GREGORIAN C CLEF;3F CLEF;2SQUARE B;2VIRGA;2PODATUS;2CLIVIS;2SCANDICUS;2CLIMACUS;2TORCULUS;2PORRECTUS;3FLEXUS
2SCANDICUS FLEXUS;2TORCULUS RESUPINUS;2PES SUBPUNCTIS;2KIEVAN C CLEF;3END OF PIECE;3FINAL NOTE;3RECITATIVE MARK
3WHOLE NOTE;3HALF NOTE;3QUARTER NOTE STEM DOWN;6UP;3EIGHTH NOTE STEM DOWN;6UP;3FLAT SIGN;2SORI;2KORON
1D200:GREEK VOCAL NOTATION SYMBOL-1;4-2;4-3;4-4;4-5;4-6;4-7;4-8;4-9;4-10;4-11;4-12;4-13;4-14;4-15;4-16;4-17;4-18
4-19;4-20;4-21;4-22;4-23;4-24;4-50;4-51;4-52;4-53;4-54;1INSTRUMENTAL NOTATION SYMBOL-1;4-2;4-4;4-5;4-7;4-8;4-11;4-12
4-13;4-14;4-17;4-18;4-19;4-23;4-24;4-25;4-26;4-27;4-29;4-30;4-32;4-36;4-37;4-38;4-39;4-40;4-42;4-43;4-45;4-47;4-48
4-49;4-50;4-51;4-52;4-53;4-54;COMBINING GREEK MUSICAL TRISEME;3TETRASEME;3PENTASEME;GREEK MUSICAL LEIMMA
1D2E0:MAYAN NUMERAL ZERO;2ONE;2TWO;2THREE;2FOUR;2FIVE;2SIX;2SEVEN;2EIGHT;2NINE;2TEN;2ELEVEN;2TWELVE;2THIRTEEN
2FOURTEEN;2FIFTEEN;2SIXTEEN;2SEVENTEEN;2EIGHTEEN;2NINETEEN;1D300:MONOGRAM FOR EARTH;DIGRAM FOR HEAVENLY EARTH
2HUMAN EARTH;2EARTHLY HEAVEN;3HUMAN;2EARTH;TETRAGRAM FOR CENTRE;2FULL CIRCLE;2MIRED;2BARRIER;2KEEPING SMALL
2CONTRARIETY;2ASCENT;2OPPOSITION;2BRANCHING OUT;2DEFECTIVENESS OR DISTORTION;2DIVERGENCE;2YOUTHFULNESS;2INCREASE
2PENETRATION;2REACH;2CONTACT;2HOLDING BACK;2WAITING;2FOLLOWING;2ADVANCE;2RELEASE;2RESISTANCE;2EASE;2JOY;2CONTENTION
2ENDEAVOUR;2DUTIES;2CHANGE;2DECISIVENESS;2BOLD RESOLUTION;2PACKING;2LEGION;2CLOSENESS;2KINSHIP;2GATHERING;2STRENGTH
2PURITY;2FULLNESS;2RESIDENCE;2LAW OR MODEL;2RESPONSE;2GOING TO MEET;2ENCOUNTERS;2STOVE;2GREATNESS;2ENLARGEMENT
2PATTERN;2RITUAL;2FLIGHT;2VASTNESS OR WASTING;2CONSTANCY;2MEASURE;2ETERNITY;2UNITY;2DIMINISHMENT;2CLOSED MOUTH
2GUARDEDNESS;2GATHERING IN;2MASSING;2ACCUMULATION;2EMBELLISHMENT;2DOUBT;2WATCH;2SINKING;2INNER;2DEPARTURE;2DARKENING
2DIMMING;2EXHAUSTION;2SEVERANCE;2STOPPAGE;2HARDNESS;2COMPLETION;2CLOSURE;2FAILURE;2AGGRAVATION;2COMPLIANCE
2ON THE VERGE;2DIFFICULTIES;2LABOURING;2FOSTERING;1D360:COUNTING ROD UNIT DIGIT ONE;4TWO;4THREE;4FOUR;4FIVE;4SIX
4SEVEN;4EIGHT;4NINE;2TENS DIGIT ONE;4TWO;4THREE;4FOUR;4FIVE;4SIX;4SEVEN;4EIGHT;4NINE;IDEOGRAPHIC TALLY MARK ONE;3TWO
3THREE;3FOUR;3FIVE;TALLY MARK ONE;2FIVE;1D400:MATHEMATICAL BOLD CAPITAL A;3B;3C;3D;3E;3F;3G;3H;3I;3J;3K;3L;3M;3N;3O
3P;3Q;3R;3S;3T;3U;3V;3W;3X;3Y;3Z;2SMALL A;3B;3C;3D;3E;3F;3G;3H;3I;3J;3K;3L;3M;3N;3O;3P;3Q;3R;3S;3T;3U;3V;3W;3X;3Y;3Z
1ITALIC CAPITAL A;3B;3C;3D;3E;3F;3G;3H;3I;3J;3K;3L;3M;3N;3O;3P;3Q;3R;3S;3T;3U;3V;3W;3X;3Y;3Z;2SMALL A;3B;3C;3D;3E;3F
3G;1D456:3I;3J;3K;3L;3M;3N;3O;3P;3Q;3R;3S;3T;3U;3V;3W;3X;3Y;3Z;1BOLD ITALIC CAPITAL A;4B;4C;4D;4E;4F;4G;4H;4I;4J;4K
4L;4M;4N;4O;4P;4Q;4R;4S;4T;4U;4V;4W;4X;4Y;4Z;3SMALL A;4B;4C;4D;4E;4F;4G;4H;4I;4J;4K;4L;4M;4N;4O;4P;4Q;4R;4S;4T;4U;4V
4W;4X;4Y;4Z;1SCRIPT CAPITAL A;1D49E:3C;3D;1D4A2:3G;1D4A5:3J;3K;1D4A9:3N;3O;3P;3Q;1D4AE:3S;3T;3U;3V;3W;3X;3Y;3Z
2SMALL A;3B;3C;3D;1D4BB:3F;1D4BD:3H;3I;3J;3K;3L;3M;3N;1D4C5:3P;3Q;3R;3S;3T;3U;3V;3W;3X;3Y;3Z;1BOLD SCRIPT CAPITAL A
4B;4C;4D;4E;4F;4G;4H;4I;4J;4K;4L;4M;4N;4O;4P;4Q;4R;4S;4T;4U;4V;4W;4X;4Y;4Z;3SMALL A;4B;4C;4D;4E;4F;4G;4H;4I;4J;4K;4L
4M;4N;4O;4P;4Q;4R;4S;4T;4U;4V;4W;4X;4Y;4Z;1FRAKTUR CAPITAL A;3B;1D507:3D;3E;3F;3G;1D50D:3J;3K;3L;3M;3N;3O;3P;3Q
1D516:3S;3T;3U;3V;3W;3X;3Y;1D51E:2SMALL A;3B;3C;3D;3E;3F;3G;3H;3I;3J;3K;3L;3M;3N;3O;3P;3Q;3R;3S;3T;3U;3V;3W;3X;3Y;3Z
1DOUBLE-STRUCK CAPITAL A;4B;1D53B:4D;4E;4F;4G;1D540:4I;4J;4K;4L;4M;1D546:4O;1D54A:4S;4T;4U;4V;4W;4X;4Y
1D552:3SMALL A;4B;4C;4D;4E;4F;4G;4H;4I;4J;4K;4L;4M;4N;4O;4P;4Q;4R;4S;4T;4U;4V;4W;4X;4Y;4Z;1BOLD FRAKTUR CAPITAL A;4B
4C;4D;4E;4F;4G;4H;4I;4J;4K;4L;4M;4N;4O;4P;4Q;4R;4S;4T;4U;4V;4W;4X;4Y;4Z;3SMALL A;4B;4C;4D;4E;4F;4G;4H;4I;4J;4K;4L;4M
4N;4O;4P;4Q;4R;4S;4T;4U;4V;4W;4X;4Y;4Z;1SANS-SERIF CAPITAL A;4B;4C;4D;4E;4F;4G;4H;4I;4J;4K;4L;4M;4N;4O;4P;4Q;4R;4S
4T;4U;4V;4W;4X;4Y;4Z;3SMALL A;4B;4C;4D;4E;4F;4G;4H;4I;4J;4K;4L;4M;4N;4O;4P;4Q;4R;4S;4T;4U;4V;4W;4X;4Y;4Z
3BOLD CAPITAL A;5B;5C;5D;5E;5F;5G;5H;5I;5J;5K;5L;5M;5N;5O;5P;5Q;5R;5S;5T;5U;5V;5W;5X;5Y;5Z;4SMALL A;5B;5C;5D;5E;5F
5G;5H;5I;5J;5K;5L;5M;5N;5O;5P;5Q;5R;5S;5T;5U;5V;5W;5X;5Y;5Z;3ITALIC CAPITAL A;5B;5C;5D;5E;5F;5G;5H;5I;5J;5K;5L;5M;5N
5O;5P;5Q;5R;5S;5T;5U;5V;5W;5X;5Y;5Z;4SMALL A;5B;5C;5D;5E;5F;5G;5H;5I;5J;5K;5L;5M;5N;5O;5P;5Q;5R;5S;5T;5U;5V;5W;5X;5Y
5Z;3BOLD ITALIC CAPITAL A;6B;6C;6D;6E;6F;6G;6H;6I;6J;6K;6L;6M;6N;6O;6P;6Q;6R;6S;6T;6U;6V;6W;6X;6Y;6Z;5SMALL A;6B;6C
6D;6E;6F;6G;6H;6I;6J;6K;6L;6M;6N;6O;6P;6Q;6R;6S;6T;6U;6V;6W;6X;6Y;6Z;1MONOSPACE CAPITAL A;3B;3C;3D;3E;3F;3G;3H;3I;3J
3K;3L;3M;3N;3O;3P;3Q;3R;3S;3T;3U;3V;3W;3X;3Y;3Z;2SMALL A;3B;3C;3D;3E;3F;3G;3H;3I;3J;3K;3L;3M;3N;3O;3P;3Q;3R;3S;3T;3U
3V;3W;3X;3Y;3Z;1ITALIC SMALL DOTLESS I;4J;1D6A8:1BOLD CAPITAL ALPHA;3BETA;3GAMMA;3DELTA;3EPSILON;3ZETA;3ETA;3THETA
3IOTA;3KAPPA;3LAMDA;3MU;3NU;3XI;3OMICRON;3PI;3RHO;3THETA SYMBOL;3SIGMA;3TAU;3UPSILON;3PHI;3CHI;3PSI;3OMEGA;2NABLA
2SMALL ALPHA;3BETA;3GAMMA;3DELTA;3EPSILON;3ZETA;3ETA;3THETA;3IOTA;3KAPPA;3LAMDA;3MU;3NU;3XI;3OMICRON;3PI;3RHO
3FINAL SIGMA;3SIGMA;3TAU;3UPSILON;3PHI;3CHI;3PSI;3OMEGA;2PARTIAL DIFFERENTIAL;2EPSILON SYMBOL;2THETA SYMBOL
2KAPPA SYMBOL;2PHI SYMBOL;2RHO SYMBOL;2PI SYMBOL;1ITALIC CAPITAL ALPHA;3BETA;3GAMMA;3DELTA;3EPSILON;3ZETA;3ETA
3THETA;3IOTA;3KAPPA;3LAMDA;3MU;3NU;3XI;3OMICRON;3PI;3RHO;3THETA SYMBOL;3SIGMA;3TAU;3UPSILON;3PHI;3CHI;3PSI;3OMEGA
2NABLA;2SMALL ALPHA;3BETA;3GAMMA;3DELTA;3EPSILON;3ZETA;3ETA;3THETA;3IOTA;3KAPPA;3LAMDA;3MU;3NU;3XI;3OMICRON;3PI;3RHO
3FINAL SIGMA;3SIGMA;3TAU;3UPSILON;3PHI;3CHI;3PSI;3OMEGA;2PARTIAL DIFFERENTIAL;2EPSILON SYMBOL;2THETA SYMBOL
2KAPPA SYMBOL;2PHI SYMBOL;2RHO SYMBOL;2PI SYMBOL;1BOLD ITALIC CAPITAL ALPHA;4BETA;4GAMMA;4DELTA;4EPSILON;4ZETA;4ETA
4THETA;4IOTA;4KAPPA;4LAMDA;4MU;4NU;4XI;4OMICRON;4PI;4RHO;4THETA SYMBOL;4SIGMA;4TAU;4UPSILON;4PHI;4CHI;4PSI;4OMEGA
3NABLA;3SMALL ALPHA;4BETA;4GAMMA;4DELTA;4EPSILON;4ZETA;4ETA;4THETA;4IOTA;4KAPPA;4LAMDA;4MU;4NU;4XI;4OMICRON;4PI;4RHO
4FINAL SIGMA;4SIGMA;4TAU;4UPSILON;4PHI;4CHI;4PSI;4OMEGA;3PARTIAL DIFFERENTIAL;3EPSILON SYMBOL;3THETA SYMBOL
3KAPPA SYMBOL;3PHI SYMBOL;3RHO SYMBOL;3PI SYMBOL;1SANS-SERIF BOLD CAPITAL ALPHA;5BETA;5GAMMA;5DELTA;5EPSILON;5ZETA
5ETA;5THETA;5IOTA;5KAPPA;5LAMDA;5MU;5NU;5XI;5OMICRON;5PI;5RHO;5THETA SYMBOL;5SIGMA;5TAU;5UPSILON;5PHI;5CHI;5PSI
5OMEGA;4NABLA;4SMALL ALPHA;5BETA;5GAMMA;5DELTA;5EPSILON;5ZETA;5ETA;5THETA;5IOTA;5KAPPA;5LAMDA;5MU;5NU;5XI;5OMICRON
5PI;5RHO;5FINAL SIGMA;5SIGMA;5TAU;5UPSILON;5PHI;5CHI;5PSI;5OMEGA;4PARTIAL DIFFERENTIAL;4EPSILON SYMBOL;4THETA SYMBOL
4KAPPA SYMBOL;4PHI SYMBOL;4RHO SYMBOL;4PI SYMBOL;4ITALIC CAPITAL ALPHA;6BETA;6GAMMA;6DELTA;6EPSILON;6ZETA;6ETA
6THETA;6IOTA;6KAPPA;6LAMDA;6MU;6NU;6XI;6OMICRON;6PI;6RHO;6THETA SYMBOL;6SIGMA;6TAU;6UPSILON;6PHI;6CHI;6PSI;6OMEGA
5NABLA;5SMALL ALPHA;6BETA;6GAMMA;6DELTA;6EPSILON;6ZETA;6ETA;6THETA;6IOTA;6KAPPA;6LAMDA;6MU;6NU;6XI;6OMICRON;6PI;6RHO
6FINAL SIGMA;6SIGMA;6TAU;6UPSILON;6PHI;6CHI;6PSI;6OMEGA;5PARTIAL DIFFERENTIAL;5EPSILON SYMBOL;5THETA SYMBOL
5KAPPA SYMBOL;5PHI SYMBOL;5RHO SYMBOL;5PI SYMBOL;1BOLD CAPITAL DIGAMMA;2SMALL DIGAMMA;1D7CE:2DIGIT ZERO;3ONE;3TWO
3THREE;3FOUR;3FIVE;3SIX;3SEVEN;3EIGHT;3NINE;1DOUBLE-STRUCK DIGIT ZERO;4ONE;4TWO;4THREE;4FOUR;4FIVE;4SIX;4SEVEN
4EIGHT;4NINE;1SANS-SERIF DIGIT ZERO;4ONE;4TWO;4THREE;4FOUR;4FIVE;4SIX;4SEVEN;4EIGHT;4NINE;3BOLD DIGIT ZERO;5ONE;5TWO
5THREE;5FOUR;5FIVE;5SIX;5SEVEN;5EIGHT;5NINE;1MONOSPACE DIGIT ZERO;3ONE;3TWO;3THREE;3FOUR;3FIVE;3SIX;3SEVEN;3EIGHT
3NINE;SIGNWRITING HAND-FIST INDEX;2-CIRCLE INDEX;2-CUP INDEX;2-OVAL INDEX;2-HINGE INDEX;2-ANGLE INDEX
2-FIST INDEX BENT;2-CIRCLE INDEX BENT;2-FIST THUMB UNDER INDEX BENT;3INDEX RAISED KNUCKLE;4CUPPED;4HINGED;5LOW
2-CIRCLE INDEX HINGE;2-FIST INDEX MIDDLE;2-CIRCLE INDEX MIDDLE;2-FIST INDEX MIDDLE BENT;5RAISED KNUCKLES;5HINGED
4UP MIDDLE HINGED;4HINGED MIDDLE UP;4MIDDLE CONJOINED;6INDEX BENT;6MIDDLE BENT;6CUPPED;6HINGED;5CROSSED
2-CIRCLE INDEX MIDDLE CROSSED;2-FIST MIDDLE BENT OVER INDEX;3INDEX BENT OVER MIDDLE;4MIDDLE THUMB
2-CIRCLE INDEX MIDDLE THUMB;2-FIST INDEX MIDDLE STRAIGHT THUMB BENT;5BENT THUMB STRAIGHT;5THUMB BENT
5HINGED SPREAD THUMB SIDE;4UP MIDDLE HINGED THUMB SIDE;8CONJOINED;4HINGED MIDDLE UP THUMB SIDE
4MIDDLE UP SPREAD THUMB FORWARD;5THUMB CUPPED;6CIRCLED;6HOOKED;6HINGED;3THUMB BETWEEN INDEX MIDDLE STRAIGHT
3INDEX MIDDLE CONJOINED THUMB SIDE;8CONJOINED;8BENT;3MIDDLE THUMB HOOKED INDEX UP;3INDEX THUMB HOOKED MIDDLE UP
4MIDDLE CONJOINED HINGED THUMB SIDE;5CROSSED THUMB SIDE;5CONJOINED THUMB FORWARD;6CUPPED THUMB FORWARD
3MIDDLE THUMB CUPPED INDEX UP;3INDEX THUMB CUPPED MIDDLE UP;3MIDDLE THUMB CIRCLED INDEX UP;7HINGED
3INDEX THUMB ANGLED OUT MIDDLE UP;6IN MIDDLE UP;5CIRCLED MIDDLE UP;4MIDDLE THUMB CONJOINED HINGED;6ANGLED OUT;7
3MIDDLE THUMB ANGLED OUT INDEX UP;8CROSSED;6INDEX UP;3INDEX THUMB HOOKED MIDDLE HINGED;2-FLAT FOUR FINGERS;5BENT
5HINGED;5CONJOINED;6SPLIT;2-CLAW FOUR FINGERS CONJOINED;2-FIST FOUR FINGERS CONJOINED BENT
2-HINGE FOUR FINGERS CONJOINED;2-FLAT FIVE FINGERS SPREAD;3HEEL FIVE FINGERS SPREAD;3FIVE FINGERS SPREAD FOUR BENT
3HEEL FIVE FINGERS SPREAD FOUR BENT;3FIVE FINGERS SPREAD BENT;3HEEL FIVE FINGERS SPREAD BENT
3FIVE FINGERS SPREAD THUMB FORWARD;2-CUP FIVE FINGERS SPREAD;6OPEN;2-HINGE FIVE FINGERS SPREAD OPEN
2-OVAL FIVE FINGERS SPREAD;2-FLAT FIVE FINGERS SPREAD HINGED;7THUMB SIDE;7NO THUMB;3;3BETWEEN PALM FACINGS;3HEEL
3THUMB SIDE;3HEEL THUMB SIDE;3THUMB BENT;4FORWARD;3SPLIT INDEX THUMB SIDE;4CENTRE;5THUMB SIDE;7BENT;4LITTLE;2-CLAW
3THUMB SIDE;3NO THUMB;3THUMB FORWARD;2-HOOK CURLICUE;3;2-CUP OPEN;3;3OPEN THUMB SIDE;3THUMB SIDE;3OPEN NO THUMB
3NO THUMB;3OPEN THUMB FORWARD;3THUMB FORWARD;2-CURLICUE OPEN;3;2-CIRCLE;2-OVAL;3THUMB SIDE;3NO THUMB;3THUMB FORWARD
2-HINGE OPEN;4THUMB FORWARD;3;3SMALL;3OPEN THUMB SIDE;3THUMB SIDE;3OPEN NO THUMB;3NO THUMB
3THUMB SIDE TOUCHING INDEX;4BETWEEN MIDDLE RING;2-ANGLE;2-FIST INDEX MIDDLE RING;2-CIRCLE INDEX MIDDLE RING
2-HINGE INDEX MIDDLE RING;2-ANGLE INDEX MIDDLE RING;2-HINGE LITTLE;2-FIST INDEX MIDDLE RING BENT;6CONJOINED
2-HINGE INDEX MIDDLE RING CONJOINED;2-FIST LITTLE DOWN;5RIPPLE STRAIGHT;6CURVED;5OTHERS CIRCLED;4UP
3THUMB UNDER LITTLE UP;2-CIRCLE LITTLE UP;2-OVAL LITTLE UP;2-ANGLE LITTLE UP;2-FIST LITTLE RAISED KNUCKLE;4BENT
4TOUCHES THUMB;4THUMB;2-HINGE LITTLE THUMB;2-FIST LITTLE INDEX THUMB;2-HINGE LITTLE INDEX THUMB
2-ANGLE LITTLE INDEX THUMB INDEX THUMB OUT;8;2-FIST LITTLE INDEX;2-CIRCLE LITTLE INDEX;2-HINGE LITTLE INDEX
2-ANGLE LITTLE INDEX;2-FIST INDEX MIDDLE LITTLE;2-CIRCLE INDEX MIDDLE LITTLE;2-HINGE INDEX MIDDLE LITTLE;3RING
2-ANGLE INDEX MIDDLE LITTLE;2-FIST INDEX MIDDLE CROSS LITTLE;2-CIRCLE INDEX MIDDLE CROSS LITTLE;2-FIST RING DOWN
2-HINGE RING DOWN INDEX THUMB HOOK MIDDLE;2-ANGLE RING DOWN MIDDLE THUMB INDEX CROSS;2-FIST RING UP;4RAISED KNUCKLE
4LITTLE;2-CIRCLE RING LITTLE;2-OVAL RING LITTLE;2-ANGLE RING LITTLE;2-FIST RING MIDDLE;5CONJOINED;5RAISED KNUCKLES
4INDEX;4THUMB;2-HOOK RING THUMB;2-FIST INDEX RING LITTLE;2-CIRCLE INDEX RING LITTLE;2-CURLICUE INDEX RING LITTLE ON
2-HOOK INDEX RING LITTLE OUT;6IN;6UNDER;2-CUP INDEX RING LITTLE;2-HINGE INDEX RING LITTLE
2-ANGLE INDEX RING LITTLE OUT;6;2-FIST MIDDLE DOWN;2-HINGE MIDDLE;2-FIST MIDDLE UP;2-CIRCLE MIDDLE UP
2-FIST MIDDLE RAISED KNUCKLE;4UP THUMB SIDE;2-HOOK MIDDLE THUMB;2-FIST MIDDLE THUMB LITTLE;4LITTLE;4RING LITTLE
2-CIRCLE MIDDLE RING LITTLE;2-CURLICUE MIDDLE RING LITTLE ON;2-CUP MIDDLE RING LITTLE;2-HINGE MIDDLE RING LITTLE
2-ANGLE MIDDLE RING LITTLE OUT;6IN;6;2-CIRCLE MIDDLE RING LITTLE BENT;2-CLAW MIDDLE RING LITTLE CONJOINED;7SIDE
2-HOOK MIDDLE RING LITTLE CONJOINED OUT;7IN;7;2-HINGE INDEX HINGED;2-FIST INDEX THUMB SIDE;2-HINGE INDEX THUMB SIDE
2-FIST INDEX THUMB SIDE THUMB DIAGONAL;7CONJOINED;7BENT;6INDEX BENT;6BOTH BENT;6INDEX HINGE;5FORWARD INDEX STRAIGHT
7BENT;5HOOK;5CURLICUE;5CURVE THUMB INSIDE;2-CLAW INDEX THUMB CURVE THUMB INSIDE;2-FIST INDEX THUMB CURVE THUMB UNDER
5CIRCLE;2-CUP INDEX THUMB;5OPEN;2-HINGE INDEX THUMB OPEN;5LARGE;5;5SMALL;2-ANGLE INDEX THUMB OUT;5IN;5;2-FIST THUMB
4HEEL;4SIDE DIAGONAL;5CONJOINED;5BENT;4FORWARD;4BETWEEN INDEX MIDDLE;5MIDDLE RING;5RING LITTLE;4UNDER TWO FINGERS
4OVER TWO FINGERS;4UNDER THREE FINGERS;5FOUR FINGERS;4OVER FOUR RAISED KNUCKLES;3;3HEEL;1TOUCH SINGLE;2MULTIPLE
2BETWEEN;1GRASP SINGLE;2MULTIPLE;2BETWEEN;1STRIKE SINGLE;2MULTIPLE;2BETWEEN;1BRUSH SINGLE;2MULTIPLE;2BETWEEN
1RUB SINGLE;2MULTIPLE;2BETWEEN;1SURFACE SYMBOLS;2BETWEEN;1SQUEEZE LARGE SINGLE;2SMALL SINGLE;2LARGE MULTIPLE
2SMALL MULTIPLE;2SEQUENTIAL;1FLICK LARGE SINGLE;2SMALL SINGLE;2LARGE MULTIPLE;2SMALL MULTIPLE;2SEQUENTIAL
1SQUEEZE FLICK ALTERNATING;1MOVEMENT-HINGE UP DOWN LARGE;5SMALL;4SEQUENTIAL;3DOWN SEQUENTIAL
3UP DOWN ALTERNATING LARGE;6SMALL;3SIDE TO SIDE SCISSORS;2-WALLPLANE FINGER CONTACT;2-FLOORPLANE FINGER CONTACT
2-WALLPLANE SINGLE STRAIGHT SMALL;5MEDIUM;5LARGE;5LARGEST;4WRIST FLEX;3DOUBLE STRAIGHT;4WRIST FLEX;4ALTERNATING
5WRIST FLEX;3CROSS;3TRIPLE STRAIGHT MOVEMENT;4WRIST FLEX;4ALTERNATING;5WRIST FLEX;3BEND SMALL;4MEDIUM;4LARGE
3CORNER SMALL;4MEDIUM;4LARGE;4ROTATION;3CHECK SMALL;4MEDIUM;4LARGE;3BOX SMALL;4MEDIUM;4LARGE;3ZIGZAG SMALL;4MEDIUM
4LARGE;3PEAKS SMALL;4MEDIUM;4LARGE;1TRAVEL-WALLPLANE ROTATION-WALLPLANE SINGLE;5DOUBLE;5ALTERNATING
4-FLOORPLANE SINGLE;5DOUBLE;5ALTERNATING;3SHAKING;3ARM SPIRAL SINGLE;5DOUBLE;5TRIPLE;1MOVEMENT-DIAGONAL AWAY SMALL
4MEDIUM;4LARGE;4LARGEST;3TOWARDS SMALL;4MEDIUM;4LARGE;4LARGEST;3BETWEEN AWAY SMALL;5MEDIUM;5LARGE;5LARGEST
4TOWARDS SMALL;5MEDIUM;5LARGE;5LARGEST;2-FLOORPLANE SINGLE STRAIGHT SMALL;5MEDIUM;5LARGE;5LARGEST;4WRIST FLEX
3DOUBLE STRAIGHT;4WRIST FLEX;4ALTERNATING;5WRIST FLEX;3CROSS;3TRIPLE STRAIGHT MOVEMENT;4WRIST FLEX
4ALTERNATING MOVEMENT;5WRIST FLEX;3BEND;3CORNER SMALL;4MEDIUM;4LARGE;3CHECK;3BOX SMALL;4MEDIUM;4LARGE;3ZIGZAG SMALL
4MEDIUM;4LARGE;3PEAKS SMALL;4MEDIUM;4LARGE;1TRAVEL-FLOORPLANE ROTATION-FLOORPLANE SINGLE;5DOUBLE;5ALTERNATING
4-WALLPLANE SINGLE;5DOUBLE;5ALTERNATING;3SHAKING;1MOVEMENT-WALLPLANE CURVE QUARTER SMALL;5MEDIUM;5LARGE;5LARGEST
4HALF-CIRCLE SMALL;6MEDIUM;6LARGE;6LARGEST;4THREE-QUARTER CIRCLE SMALL;7MEDIUM;3HUMP SMALL;4MEDIUM;4LARGE
3LOOP SMALL;4MEDIUM;4LARGE;4SMALL DOUBLE;3WAVE CURVE DOUBLE SMALL;6MEDIUM;6LARGE;5TRIPLE SMALL;6MEDIUM;6LARGE
3CURVE THEN STRAIGHT;3CURVED CROSS SMALL;5MEDIUM;1ROTATION-WALLPLANE SINGLE;3DOUBLE;3ALTERNATE
1MOVEMENT-WALLPLANE SHAKING;3CURVE HITTING FRONT WALL;3HUMP HITTING FRONT WALL;3LOOP HITTING FRONT WALL
3WAVE HITTING FRONT WALL;1ROTATION-WALLPLANE SINGLE HITTING FRONT WALL;3DOUBLE HITTING FRONT WALL
3ALTERNATING HITTING FRONT WALL;1MOVEMENT-WALLPLANE CURVE HITTING CHEST;3HUMP HITTING CHEST;3LOOP HITTING CHEST
3WAVE HITTING CHEST;1ROTATION-WALLPLANE SINGLE HITTING CHEST;3DOUBLE HITTING CHEST;3ALTERNATING HITTING CHEST
1MOVEMENT-WALLPLANE WAVE DIAGONAL PATH SMALL;6MEDIUM;6LARGE;2-FLOORPLANE CURVE HITTING CEILING SMALL;6LARGE
3HUMP HITTING CEILING SMALL DOUBLE;6LARGE DOUBLE;6SMALL TRIPLE;6LARGE TRIPLE;3LOOP HITTING CEILING SMALL SINGLE
6LARGE SINGLE;6SMALL DOUBLE;6LARGE DOUBLE;3WAVE HITTING CEILING SMALL;6LARGE
1ROTATION-FLOORPLANE SINGLE HITTING CEILING;3DOUBLE HITTING CEILING;3ALTERNATING HITTING CEILING
1MOVEMENT-FLOORPLANE CURVE HITTING FLOOR SMALL;6LARGE;3HUMP HITTING FLOOR SMALL DOUBLE;6LARGE DOUBLE
6TRIPLE SMALL TRIPLE;7LARGE TRIPLE;3LOOP HITTING FLOOR SMALL SINGLE;6LARGE SINGLE;6SMALL DOUBLE;6LARGE DOUBLE
3WAVE HITTING FLOOR SMALL;6LARGE;1ROTATION-FLOORPLANE SINGLE HITTING FLOOR;3DOUBLE HITTING FLOOR
3ALTERNATING HITTING FLOOR;1MOVEMENT-FLOORPLANE CURVE SMALL;4MEDIUM;4LARGE;4LARGEST;4COMBINED;3HUMP SMALL
3LOOP SMALL;3WAVE SNAKE;4SMALL;4LARGE;1ROTATION-FLOORPLANE SINGLE;3DOUBLE;3ALTERNATING
1MOVEMENT-FLOORPLANE SHAKING PARALLEL;2-WALLPLANE ARM CIRCLE SMALL SINGLE;5MEDIUM SINGLE;5SMALL DOUBLE
5MEDIUM DOUBLE;2-FLOORPLANE ARM CIRCLE HITTING WALL SMALL SINGLE;7MEDIUM SINGLE;7LARGE SINGLE;7SMALL DOUBLE
7MEDIUM DOUBLE;7LARGE DOUBLE;2-WALLPLANE WRIST CIRCLE FRONT SINGLE;6DOUBLE
2-FLOORPLANE WRIST CIRCLE HITTING WALL SINGLE;7DOUBLE;2-WALLPLANE FINGER CIRCLES SINGLE;5DOUBLE
2-FLOORPLANE FINGER CIRCLES HITTING WALL SINGLE;7DOUBLE;1DYNAMIC ARROWHEAD SMALL;3LARGE;2FAST;2SLOW;2TENSE;2RELAXED
2SIMULTANEOUS;3ALTERNATING;2EVERY OTHER TIME;2GRADUAL;1HEAD;2RIM;2MOVEMENT-WALLPLANE STRAIGHT;4TILT
3-FLOORPLANE STRAIGHT;3-WALLPLANE CURVE;3-FLOORPLANE CURVE;3CIRCLE;1FACE DIRECTION POSITION NOSE FORWARD TILTING
5UP OR DOWN;8TILTING;1EYEBROWS STRAIGHT UP;3NEUTRAL;3DOWN;1DREAMY EYEBROWS NEUTRAL DOWN;3DOWN NEUTRAL;3UP NEUTRAL
3NEUTRAL UP;1FOREHEAD NEUTRAL;2CONTACT;2WRINKLED;1EYES OPEN;2SQUEEZED;2CLOSED;1EYE BLINK SINGLE;3MULTIPLE
1EYES HALF OPEN;2WIDE OPEN;2HALF CLOSED;2WIDENING MOVEMENT;1EYE WINK;1EYELASHES UP;2DOWN;2FLUTTERING
1EYEGAZE-WALLPLANE STRAIGHT;4DOUBLE;4ALTERNATING;2-FLOORPLANE STRAIGHT;4DOUBLE;4ALTERNATING;2-WALLPLANE CURVED
2-FLOORPLANE CURVED;2-WALLPLANE CIRCLING;1CHEEKS PUFFED;2NEUTRAL;2SUCKED;1TENSE CHEEKS HIGH;3MIDDLE;3LOW;1EARS
1NOSE NEUTRAL;2CONTACT;2WRINKLES;2WIGGLES;1AIR BLOWING OUT;2SUCKING IN;2BLOW SMALL ROTATIONS;2SUCK SMALL ROTATIONS
1BREATH INHALE;2EXHALE;1MOUTH CLOSED NEUTRAL;3FORWARD;3CONTACT;2SMILE;3WRINKLED;3OPEN;2FROWN;3WRINKLED;3OPEN
2OPEN CIRCLE;3FORWARD;3WRINKLED;3OVAL;4WRINKLED;4YAWN;3RECTANGLE;4WRINKLED;4YAWN;2KISS;3FORWARD;3WRINKLED;2TENSE
3FORWARD;3SUCKED;1LIPS PRESSED TOGETHER;1LIP LOWER OVER UPPER;2UPPER OVER LOWER;1MOUTH CORNERS;2WRINKLES SINGLE
3DOUBLE;1TONGUE STICKING OUT FAR;2LICKING LIPS;2TIP BETWEEN LIPS;3TOUCHING INSIDE MOUTH;2INSIDE MOUTH RELAXED
2MOVES AGAINST CHEEK;2CENTRE STICKING OUT;3INSIDE MOUTH;1TEETH;2MOVEMENT;2ON TONGUE;4MOVEMENT;3LIPS;4MOVEMENT
2BITE LIPS;1MOVEMENT-WALLPLANE JAW;2-FLOORPLANE JAW;1NECK;1HAIR;1EXCITEMENT;1SHOULDER HIP SPINE;3POSITIONS
1WALLPLANE SHOULDER HIP MOVE;1FLOORPLANE SHOULDER HIP MOVE;1SHOULDER TILTING FROM WAIST
1TORSO-WALLPLANE STRAIGHT STRETCH;3CURVED BEND;2-FLOORPLANE TWISTING;1UPPER BODY TILTING FROM HIP JOINTS
1LIMB COMBINATION;2LENGTH-1;3-2;3-3;3-4;3-5;3-6;3-7;1FINGER;1LOCATION-WALLPLANE SPACE;2-FLOORPLANE SPACE;2HEIGHT
2WIDTH;2DEPTH;2HEAD NECK;2TORSO;2LIMBS DIGITS;1COMMA;1FULL STOP;1SEMICOLON;1COLON;1PARENTHESIS
1DA9B:1FILL MODIFIER-2;3-3;3-4;3-5;3-6;1DAA1:1ROTATION MODIFIER-2;3-3;3-4;3-5;3-6;3-7;3-8;3-9;3-10;3-11;3-12;3-13
3-14;3-15;3-16"

end RiskGauge.Text.CharName
