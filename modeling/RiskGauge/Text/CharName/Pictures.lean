/-!
# Names of characters: from the phonetic letters beyond the basic plane to pictures

The rows are those that `Text.NameRow` reads.
-/

namespace RiskGauge.Text.CharName

/-- The names of the characters from U+1DF00 to U+E01EF. -/
def pictures : String := "1DF00:LATIN SMALL LETTER FENG DIGRAPH WITH TRILL;3REVERSED SCRIPT G;1LETTER SMALL CAPITAL TURNED G
1SMALL LETTER REVERSED K;1LETTER SMALL CAPITAL L WITH BELT;1SMALL LETTER LEZH WITH RETROFLEX HOOK
3TURNED Y WITH BELT;3REVERSED ENG;3TURNED R WITH LONG LEG AND RETROFLEX HOOK;3T WITH HOOK AND RETROFLEX HOOK
1LETTER RETROFLEX CLICK WITH RETROFLEX HOOK;1SMALL LETTER ESH WITH DOUBLE BAR;7AND CURL;3TURNED T WITH CURL
1LETTER INVERTED GLOTTAL STOP WITH CURL;2STRETCHED C WITH CURL;2SMALL CAPITAL TURNED K;1SMALL LETTER L WITH FISHHOOK
3DEZH DIGRAPH WITH PALATAL HOOK;3L WITH BELT AND PALATAL HOOK;3ENG WITH PALATAL HOOK;3TURNED R WITH PALATAL HOOK
3R WITH FISHHOOK AND PALATAL HOOK;3TESH DIGRAPH WITH PALATAL HOOK;3EZH WITH PALATAL HOOK
3DEZH DIGRAPH WITH RETROFLEX HOOK;3I WITH STROKE AND RETROFLEX HOOK;3O WITH RETROFLEX HOOK
3TESH DIGRAPH WITH RETROFLEX HOOK;3C WITH RETROFLEX HOOK;3S WITH CURL;1E000:COMBINING GLAGOLITIC LETTER AZU;3BUKY
3VEDE;3GLAGOLI;3DOBRO;3YESTU;3ZHIVETE;1E008:3ZEMLJA;3IZHE;3INITIAL IZHE;3I;3DJERVI;3KAKO;3LJUDIJE;3MYSLITE;3NASHI
3ONU;3POKOJI;3RITSI;3SLOVO;3TVRIDO;3UKU;3FRITU;3HERU;1E01B:3SHTA;3TSI;3CHRIVI;3SHA;3YERU;3YERI;3YATI;1E023:3YU
3SMALL YUS;1E026:3YO;3IOTATED SMALL YUS;3BIG YUS;3IOTATED BIG YUS;3FITA;1E100:NYIAKENG PUACHUE HMONG LETTER MA;4TSA
4NTA;4TA;4HA;4NA;4XA;4NKA;4CA;4LA;4SA;4ZA;4NCA;4NTSA;4KA;4DA;4NYA;4NRA;4VA;4NTXA;4TXA;4FA;4RA;4QA;4YA;4NQA;4PA;4XYA
4NPA;4DLA;4NPLA;4HAH;4MLA;4PLA;4GA;4RRA;4A;4AA;4I;4U;4O;4OO;4E;4EE;4W;1E130:3TONE-B;4-M;4-J;4-V;4-S;4-G;4-D
3SIGN FOR PERSON;5THING;5LOCATION;5ANIMAL;5INVERTEBRATE;4XW XW;3SYLLABLE LENGTHENER;1E140:3DIGIT ZERO;4ONE;4TWO
4THREE;4FOUR;4FIVE;4SIX;4SEVEN;4EIGHT;4NINE;1E14E:3LOGOGRAM NYAJ;3CIRCLED CA;1E290:TOTO LETTER PA;2BA;2TA;2DA;2KA
2GA;2MA;2NA;2NGA;2SA;2CHA;2YA;2WA;2JA;2HA;2RA;2LA;2I;2BREATHY I;2IU;2BREATHY IU;2U;2E;2BREATHY E;2EO;2BREATHY EO;2O
2AE;2BREATHY AE;2A;1SIGN RISING TONE;1E2C0:WANCHO LETTER AA;2A;2BA;2CA;2DA;2GA;2YA;2PHA;2LA;2NA;2PA;2TA;2THA;2FA;2SA
2SHA;2JA;2ZA;2WA;2VA;2KA;2O;2AU;2RA;2MA;2KHA;2HA;2E;2I;2NGA;2U;2LLHA;2TSA;2TRA;2ONG;2AANG;2ANG;2ING;2ON;2EN;2AAN
2NYA;2UEN;2YIH;1TONE TUP;2TUPNI;2KOI;2KOINI;1DIGIT ZERO;2ONE;2TWO;2THREE;2FOUR;2FIVE;2SIX;2SEVEN;2EIGHT;2NINE
1E2FF:1NGUN SIGN;1E7E0:ETHIOPIC SYLLABLE HHYA;2HHYU;2HHYI;2HHYAA;2HHYEE;2HHYE;2HHYO;1E7E8:2GURAGE HHWA;2HHWI;2HHWEE
2HHWE;1E7ED:2GURAGE MWI;3MWEE;1E7F0:3QWI;3QWEE;3QWE;3BWI;3BWEE;3KWI;3KWEE;3KWE;3GWI;3GWEE;3GWE;3FWI;3FWEE;3PWI;3PWEE
1E800:MENDE KIKAKUI SYLLABLE M001 KI;3M002 KA;3M003 KU;3M065 KEE;3M095 KE;3M076 KOO;3M048 KO;3M179 KUA;3M004 WI
3M005 WA;3M006 WU;3M126 WEE;3M118 WE;3M114 WOO;3M045 WO;3M194 WUI;3M143 WEI;3M061 WVI;3M049 WVA;3M139 WVE;3M007 MIN
3M008 MAN;3M009 MUN;3M059 MEN;3M094 MON;3M154 MUAN;3M189 MUEN;3M010 BI;3M011 BA;3M012 BU;3M150 BEE;3M097 BE
3M103 BOO;3M138 BO;3M013 I;3M014 A;3M015 U;3M163 EE;3M100 E;3M165 OO;3M147 O;3M137 EI;3M131 IN;3M135 IN;3M195 AN
3M178 EN;3M019 SI;3M020 SA;3M021 SU;3M162 SEE;3M116 SE;3M136 SOO;3M079 SO;3M196 SIA;3M025 LI;3M026 LA;3M027 LU
3M084 LEE;3M073 LE;3M054 LOO;3M153 LO;3M110 LONG LE;3M016 DI;3M017 DA;3M018 DU;3M089 DEE;3M180 DOO;3M181 DO;3M022 TI
3M023 TA;3M024 TU;3M091 TEE;3M055 TE;3M104 TOO;3M069 TO;3M028 JI;3M029 JA;3M030 JU;3M157 JEE;3M113 JE;3M160 JOO
3M063 JO;3M175 LONG JO;3M031 YI;3M032 YA;3M033 YU;3M109 YEE;3M080 YE;3M141 YOO;3M121 YO;3M034 FI;3M035 FA;3M036 FU
3M078 FEE;3M075 FE;3M133 FOO;3M088 FO;3M197 FUA;3M101 FAN;3M037 NIN;3M038 NAN;3M039 NUN;3M117 NEN;3M169 NON;3M176 HI
3M041 HA;3M186 HU;3M040 HEE;3M096 HE;3M042 HOO;3M140 HO;3M083 HEEI;3M128 HOOU;3M053 HIN;3M130 HAN;3M087 HUN
3M052 HEN;3M193 HON;3M046 HUAN;3M090 NGGI;3M043 NGGA;3M082 NGGU;3M115 NGGEE;3M146 NGGE;3M156 NGGOO;3M120 NGGO
3M159 NGGAA;3M127 NGGUA;3M086 LONG NGGE;3M106 LONG NGGOO;3M183 LONG NGGO;3M155 GI;3M111 GA;3M168 GU;3M190 GEE
3M166 GUEI;3M167 GUAN;3M184 NGEN;3M057 NGON;3M177 NGUAN;3M068 PI;3M099 PA;3M050 PU;3M081 PEE;3M051 PE;3M102 POO
3M066 PO;3M145 MBI;3M062 MBA;3M122 MBU;3M047 MBEE;3M188 MBEE;3M072 MBE;3M172 MBOO;3M174 MBO;3M187 MBUU
3M161 LONG MBE;3M105 LONG MBOO;3M142 LONG MBO;3M132 KPI;3M092 KPA;3M074 KPU;3M044 KPEE;3M108 KPE;3M112 KPOO
3M158 KPO;3M124 GBI;3M056 GBA;3M148 GBU;3M093 GBEE;3M107 GBE;3M071 GBOO;3M070 GBO;3M171 RA;3M123 NDI;3M129 NDA
3M125 NDU;3M191 NDEE;3M119 NDE;3M067 NDOO;3M064 NDO;3M152 NJA;3M192 NJU;3M149 NJEE;3M134 NJOO;3M182 VI;3M185 VA
3M151 VU;3M173 VEE;3M085 VE;3M144 VOO;3M077 VO;3M164 NYIN;3M058 NYAN;3M170 NYUN;3M098 NYEN;3M060 NYON
1E8C7:2DIGIT ONE;3TWO;3THREE;3FOUR;3FIVE;3SIX;3SEVEN;3EIGHT;3NINE;2COMBINING NUMBER TEENS;4TENS;4HUNDREDS;4THOUSANDS
4TEN THOUSANDS;4HUNDRED THOUSANDS;4MILLIONS;1E900:ADLAM CAPITAL LETTER ALIF;3DAALI;3LAAM;3MIIM;3BA;3SINNYIIYHE;3PE
3BHE;3RA;3E;3FA;3I;3O;3DHA;3YHE;3WAW;3NUN;3KAF;3YA;3U;3JIIM;3CHI;3HA;3QAAF;3GA;3NYA;3TU;3NHA;3VA;3KHA;3GBE;3ZAL;3KPO
3SHA;1SMALL LETTER ALIF;3DAALI;3LAAM;3MIIM;3BA;3SINNYIIYHE;3PE;3BHE;3RA;3E;3FA;3I;3O;3DHA;3YHE;3WAW;3NUN;3KAF;3YA;3U
3JIIM;3CHI;3HA;3QAAF;3GA;3NYA;3TU;3NHA;3VA;3KHA;3GBE;3ZAL;3KPO;3SHA;1ALIF LENGTHENER;1VOWEL LENGTHENER
1GEMINATION MARK;1HAMZA;1CONSONANT MODIFIER;1GEMINATE CONSONANT MODIFIER;1NUKTA;1NASALIZATION MARK;1E950:1DIGIT ZERO
2ONE;2TWO;2THREE;2FOUR;2FIVE;2SIX;2SEVEN;2EIGHT;2NINE;1E95E:1INITIAL EXCLAMATION MARK;2QUESTION MARK
1EC71:INDIC SIYAQ NUMBER ONE;3TWO;3THREE;3FOUR;3FIVE;3SIX;3SEVEN;3EIGHT;3NINE;3TEN;3TWENTY;3THIRTY;3FORTY;3FIFTY
3SIXTY;3SEVENTY;3EIGHTY;3NINETY;3ONE HUNDRED;3TWO HUNDRED;3THREE HUNDRED;3FOUR HUNDRED;3FIVE HUNDRED;3SIX HUNDRED
3SEVEN HUNDRED;3EIGHT HUNDRED;3NINE HUNDRED;3ONE THOUSAND;3TWO THOUSAND;3THREE THOUSAND;3FOUR THOUSAND
3FIVE THOUSAND;3SIX THOUSAND;3SEVEN THOUSAND;3EIGHT THOUSAND;3NINE THOUSAND;3TEN THOUSAND;3TWENTY THOUSAND
3THIRTY THOUSAND;3FORTY THOUSAND;3FIFTY THOUSAND;3SIXTY THOUSAND;3SEVENTY THOUSAND;3EIGHTY THOUSAND;3NINETY THOUSAND
3LAKH;3LAKHAN;2LAKH MARK;2NUMBER KAROR;3KARORAN;3PREFIXED ONE;4TWO;4THREE;4FOUR;4FIVE;4SIX;4SEVEN;4EIGHT;4NINE
2PLACEHOLDER;2FRACTION ONE QUARTER;4HALF;3THREE QUARTERS;2RUPEE MARK;2NUMBER ALTERNATE ONE;4TWO;4TEN THOUSAND
2ALTERNATE LAKH MARK;1ED01:OTTOMAN SIYAQ NUMBER ONE;3TWO;3THREE;3FOUR;3FIVE;3SIX;3SEVEN;3EIGHT;3NINE;3TEN;3TWENTY
3THIRTY;3FORTY;3FIFTY;3SIXTY;3SEVENTY;3EIGHTY;3NINETY;3ONE HUNDRED;3TWO HUNDRED;3THREE HUNDRED;3FOUR HUNDRED
3FIVE HUNDRED;3SIX HUNDRED;3SEVEN HUNDRED;3EIGHT HUNDRED;3NINE HUNDRED;3ONE THOUSAND;3TWO THOUSAND;3THREE THOUSAND
3FOUR THOUSAND;3FIVE THOUSAND;3SIX THOUSAND;3SEVEN THOUSAND;3EIGHT THOUSAND;3NINE THOUSAND;3TEN THOUSAND
3TWENTY THOUSAND;3THIRTY THOUSAND;3FORTY THOUSAND;3FIFTY THOUSAND;3SIXTY THOUSAND;3SEVENTY THOUSAND;3EIGHTY THOUSAND
3NINETY THOUSAND;2MARRATAN;2ALTERNATE NUMBER TWO;4THREE;4FOUR;4FIVE;4SIX;4SEVEN;4EIGHT;4NINE;4TEN;4FOUR HUNDRED
4SIX HUNDRED;4TWO THOUSAND;4TEN THOUSAND;2FRACTION ONE HALF;4SIXTH;1EE00:ARABIC MATHEMATICAL ALEF;2BEH;2JEEM;2DAL
1EE05:2WAW;2ZAIN;2HAH;2TAH;2YEH;2KAF;2LAM;2MEEM;2NOON;2SEEN;2AIN;2FEH;2SAD;2QAF;2REH;2SHEEN;2TEH;2THEH;2KHAH;2THAL
2DAD;2ZAH;2GHAIN;2DOTLESS BEH;3NOON;3FEH;3QAF;1EE21:2INITIAL BEH;3JEEM;1EE24:3HEH;1EE27:3HAH;1EE29:3YEH;3KAF;3LAM
3MEEM;3NOON;3SEEN;3AIN;3FEH;3SAD;3QAF;1EE34:3SHEEN;3TEH;3THEH;3KHAH;1EE39:3DAD;1EE3B:3GHAIN;1EE42:2TAILED JEEM
1EE47:3HAH;1EE49:3YEH;1EE4B:3LAM;1EE4D:3NOON;3SEEN;3AIN;1EE51:3SAD;3QAF;1EE54:3SHEEN;1EE57:3KHAH;1EE59:3DAD
1EE5B:3GHAIN;1EE5D:3DOTLESS NOON;1EE5F:4QAF;1EE61:2STRETCHED BEH;3JEEM;1EE64:3HEH;1EE67:3HAH;3TAH;3YEH;3KAF
1EE6C:3MEEM;3NOON;3SEEN;3AIN;3FEH;3SAD;3QAF;1EE74:3SHEEN;3TEH;3THEH;3KHAH;1EE79:3DAD;3ZAH;3GHAIN;3DOTLESS BEH
1EE7E:4FEH;1EE80:2LOOPED ALEF;3BEH;3JEEM;3DAL;3HEH;3WAW;3ZAIN;3HAH;3TAH;3YEH;1EE8B:3LAM;3MEEM;3NOON;3SEEN;3AIN;3FEH
3SAD;3QAF;3REH;3SHEEN;3TEH;3THEH;3KHAH;3THAL;3DAD;3ZAH;3GHAIN;1EEA1:2DOUBLE-STRUCK BEH;4JEEM;4DAL;1EEA5:4WAW;4ZAIN
4HAH;4TAH;4YEH;1EEAB:4LAM;4MEEM;4NOON;4SEEN;4AIN;4FEH;4SAD;4QAF;4REH;4SHEEN;4TEH;4THEH;4KHAH;4THAL;4DAD;4ZAH;4GHAIN
1EEF0:2OPERATOR MEEM WITH HAH WITH TATWEEL;3HAH WITH DAL;1F000:MAHJONG TILE EAST WIND;2SOUTH WIND;2WEST WIND
2NORTH WIND;2RED DRAGON;2GREEN DRAGON;2WHITE DRAGON;2ONE OF CHARACTERS;2TWO OF CHARACTERS;2THREE OF CHARACTERS
2FOUR OF CHARACTERS;2FIVE OF CHARACTERS;2SIX OF CHARACTERS;2SEVEN OF CHARACTERS;2EIGHT OF CHARACTERS
2NINE OF CHARACTERS;2ONE OF BAMBOOS;2TWO OF BAMBOOS;2THREE OF BAMBOOS;2FOUR OF BAMBOOS;2FIVE OF BAMBOOS
2SIX OF BAMBOOS;2SEVEN OF BAMBOOS;2EIGHT OF BAMBOOS;2NINE OF BAMBOOS;2ONE OF CIRCLES;2TWO OF CIRCLES
2THREE OF CIRCLES;2FOUR OF CIRCLES;2FIVE OF CIRCLES;2SIX OF CIRCLES;2SEVEN OF CIRCLES;2EIGHT OF CIRCLES
2NINE OF CIRCLES;2PLUM;2ORCHID;2BAMBOO;2CHRYSANTHEMUM;2SPRING;2SUMMER;2AUTUMN;2WINTER;2JOKER;2BACK
1F030:DOMINO TILE HORIZONTAL BACK;3-00-00;4-01;4-02;4-03;4-04;4-05;4-06;3-01-00;4-01;4-02;4-03;4-04;4-05;4-06
3-02-00;4-01;4-02;4-03;4-04;4-05;4-06;3-03-00;4-01;4-02;4-03;4-04;4-05;4-06;3-04-00;4-01;4-02;4-03;4-04;4-05;4-06
3-05-00;4-01;4-02;4-03;4-04;4-05;4-06;3-06-00;4-01;4-02;4-03;4-04;4-05;4-06;2VERTICAL BACK;3-00-00;4-01;4-02;4-03
4-04;4-05;4-06;3-01-00;4-01;4-02;4-03;4-04;4-05;4-06;3-02-00;4-01;4-02;4-03;4-04;4-05;4-06;3-03-00;4-01;4-02;4-03
4-04;4-05;4-06;3-04-00;4-01;4-02;4-03;4-04;4-05;4-06;3-05-00;4-01;4-02;4-03;4-04;4-05;4-06;3-06-00;4-01;4-02;4-03
4-04;4-05;4-06;1F0A0:PLAYING CARD BACK;2ACE OF SPADES;2TWO OF SPADES;2THREE OF SPADES;2FOUR OF SPADES
2FIVE OF SPADES;2SIX OF SPADES;2SEVEN OF SPADES;2EIGHT OF SPADES;2NINE OF SPADES;2TEN OF SPADES;2JACK OF SPADES
2KNIGHT OF SPADES;2QUEEN OF SPADES;2KING OF SPADES;1F0B1:2ACE OF HEARTS;2TWO OF HEARTS;2THREE OF HEARTS
2FOUR OF HEARTS;2FIVE OF HEARTS;2SIX OF HEARTS;2SEVEN OF HEARTS;2EIGHT OF HEARTS;2NINE OF HEARTS;2TEN OF HEARTS
2JACK OF HEARTS;2KNIGHT OF HEARTS;2QUEEN OF HEARTS;2KING OF HEARTS;2RED JOKER;1F0C1:2ACE OF DIAMONDS
2TWO OF DIAMONDS;2THREE OF DIAMONDS;2FOUR OF DIAMONDS;2FIVE OF DIAMONDS;2SIX OF DIAMONDS;2SEVEN OF DIAMONDS
2EIGHT OF DIAMONDS;2NINE OF DIAMONDS;2TEN OF DIAMONDS;2JACK OF DIAMONDS;2KNIGHT OF DIAMONDS;2QUEEN OF DIAMONDS
2KING OF DIAMONDS;2BLACK JOKER;1F0D1:2ACE OF CLUBS;2TWO OF CLUBS;2THREE OF CLUBS;2FOUR OF CLUBS;2FIVE OF CLUBS
2SIX OF CLUBS;2SEVEN OF CLUBS;2EIGHT OF CLUBS;2NINE OF CLUBS;2TEN OF CLUBS;2JACK OF CLUBS;2KNIGHT OF CLUBS
2QUEEN OF CLUBS;2KING OF CLUBS;2WHITE JOKER;2FOOL;2TRUMP-1;3-2;3-3;3-4;3-5;3-6;3-7;3-8;3-9;3-10;3-11;3-12;3-13;3-14
3-15;3-16;3-17;3-18;3-19;3-20;3-21;1F100:DIGIT ZERO FULL STOP;2COMMA;1ONE COMMA;1TWO COMMA;1THREE COMMA;1FOUR COMMA
1FIVE COMMA;1SIX COMMA;1SEVEN COMMA;1EIGHT COMMA;1NINE COMMA;DINGBAT CIRCLED SANS-SERIF DIGIT ZERO
1NEGATIVE CIRCLED SANS-SERIF DIGIT ZERO;CIRCLED ZERO WITH SLASH;1ANTICLOCKWISE ARROW
1DOLLAR SIGN WITH OVERLAID BACKSLASH;PARENTHESIZED LATIN CAPITAL LETTER A;4B;4C;4D;4E;4F;4G;4H;4I;4J;4K;4L;4M;4N;4O
4P;4Q;4R;4S;4T;4U;4V;4W;4X;4Y;4Z;TORTOISE SHELL BRACKETED LATIN CAPITAL LETTER S
CIRCLED ITALIC LATIN CAPITAL LETTER C;5R;1CD;1WZ;COPYLEFT SYMBOL;SQUARED LATIN CAPITAL LETTER A;4B;4C;4D;4E;4F;4G;4H
4I;4J;4K;4L;4M;4N;4O;4P;4Q;4R;4S;4T;4U;4V;4W;4X;4Y;4Z;1HV;1MV;1SD;1SS;1PPV;1WC
NEGATIVE CIRCLED LATIN CAPITAL LETTER A;5B;5C;5D;5E;5F;5G;5H;5I;5J;5K;5L;5M;5N;5O;5P;5Q;5R;5S;5T;5U;5V;5W;5X;5Y;5Z
RAISED MC SIGN;1MD SIGN;1MR SIGN;CIRCLED CC;1C WITH OVERLAID BACKSLASH;1HUMAN FIGURE
NEGATIVE SQUARED LATIN CAPITAL LETTER A;5B;5C;5D;5E;5F;5G;5H;5I;5J;5K;5L;5M;5N;5O;5P;5Q;5R;5S;5T;5U;5V;5W;5X;5Y;5Z
CROSSED NEGATIVE SQUARED LATIN CAPITAL LETTER P;NEGATIVE SQUARED IC;2PA;2SA;2AB;2WC;SQUARE DJ;SQUARED CL;1COOL;1FREE
1ID;1NEW;1NG;1OK;1SOS;1UP WITH EXCLAMATION MARK;1VS;1THREE D;1SECOND SCREEN;1TWO K;1FOUR K;1EIGHT K;1FIVE POINT ONE
1SEVEN POINT ONE;1TWENTY-TWO POINT TWO;1SIXTY P;1ONE HUNDRED TWENTY P;1LATIN SMALL LETTER D;1HC;1HDR;1HI-RES
1LOSSLESS;1SHV;1UHD;1VOD;MASK WORK SYMBOL;1F1E6:REGIONAL INDICATOR SYMBOL LETTER A;4B;4C;4D;4E;4F;4G;4H;4I;4J;4K;4L
4M;4N;4O;4P;4Q;4R;4S;4T;4U;4V;4W;4X;4Y;4Z;SQUARE HIRAGANA HOKA;SQUARED KATAKANA KOKO;2SA
1F210:1CJK UNIFIED IDEOGRAPH-624B;4-5B57;4-53CC;1KATAKANA DE;1CJK UNIFIED IDEOGRAPH-4E8C;4-591A;4-89E3;4-5929;4-4EA4
4-6620;4-7121;4-6599;4-524D;4-5F8C;4-518D;4-65B0;4-521D;4-7D42;4-751F;4-8CA9;4-58F0;4-5439;4-6F14;4-6295;4-6355
4-4E00;4-4E09;4-904A;4-5DE6;4-4E2D;4-53F3;4-6307;4-8D70;4-6253;4-7981;4-7A7A;4-5408;4-6E80;4-6709;4-6708;4-7533
4-5272;4-55B6;4-914D;1F240:TORTOISE SHELL BRACKETED CJK UNIFIED IDEOGRAPH-672C;6-4E09;6-4E8C;6-5B89;6-70B9;6-6253
6-76D7;6-52DD;6-6557;1F250:CIRCLED IDEOGRAPH ADVANTAGE;2ACCEPT;1F260:ROUNDED SYMBOL FOR FU;3LU;3SHOU;3XI;3SHUANGXI
3CAI;1F300:CYCLONE;FOGGY;CLOSED UMBRELLA;NIGHT WITH STARS;SUNRISE OVER MOUNTAINS;1;CITYSCAPE AT DUSK
SUNSET OVER BUILDINGS;RAINBOW;BRIDGE AT NIGHT;WATER WAVE;VOLCANO;MILKY WAY;EARTH GLOBE EUROPE-AFRICA;2AMERICAS
2ASIA-AUSTRALIA;GLOBE WITH MERIDIANS;NEW MOON SYMBOL;WAXING CRESCENT MOON SYMBOL;FIRST QUARTER MOON SYMBOL
WAXING GIBBOUS MOON SYMBOL;FULL MOON SYMBOL;WANING GIBBOUS MOON SYMBOL;LAST QUARTER MOON SYMBOL
WANING CRESCENT MOON SYMBOL;CRESCENT MOON;NEW MOON WITH FACE;FIRST QUARTER MOON WITH FACE
LAST QUARTER MOON WITH FACE;FULL MOON WITH FACE;SUN WITH FACE;GLOWING STAR;SHOOTING STAR;THERMOMETER;BLACK DROPLET
WHITE SUN;2WITH SMALL CLOUD;2BEHIND CLOUD;4WITH RAIN;CLOUD WITH RAIN;2SNOW;2LIGHTNING;2TORNADO;FOG;WIND BLOWING FACE
HOT DOG;TACO;BURRITO;CHESTNUT;SEEDLING;EVERGREEN TREE;DECIDUOUS TREE;PALM TREE;CACTUS;HOT PEPPER;TULIP
CHERRY BLOSSOM;ROSE;HIBISCUS;SUNFLOWER;BLOSSOM;EAR OF MAIZE;2RICE;HERB;FOUR LEAF CLOVER;MAPLE LEAF;FALLEN LEAF
LEAF FLUTTERING IN WIND;MUSHROOM;TOMATO;AUBERGINE;GRAPES;MELON;WATERMELON;TANGERINE;LEMON;BANANA;PINEAPPLE;RED APPLE
GREEN APPLE;PEAR;PEACH;CHERRIES;STRAWBERRY;HAMBURGER;SLICE OF PIZZA;MEAT ON BONE;POULTRY LEG;RICE CRACKER;1BALL
COOKED RICE;CURRY AND RICE;STEAMING BOWL;SPAGHETTI;BREAD;FRENCH FRIES;ROASTED SWEET POTATO;DANGO;ODEN;SUSHI
FRIED SHRIMP;FISH CAKE WITH SWIRL DESIGN;SOFT ICE CREAM;SHAVED ICE;ICE CREAM;DOUGHNUT;COOKIE;CHOCOLATE BAR;CANDY
LOLLIPOP;CUSTARD;HONEY POT;SHORTCAKE;BENTO BOX;POT OF FOOD;COOKING;FORK AND KNIFE;TEACUP WITHOUT HANDLE
SAKE BOTTLE AND CUP;WINE GLASS;COCKTAIL GLASS;TROPICAL DRINK;BEER MUG;CLINKING BEER MUGS;BABY BOTTLE
FORK AND KNIFE WITH PLATE;BOTTLE WITH POPPING CORK;POPCORN;RIBBON;WRAPPED PRESENT;BIRTHDAY CAKE;JACK-O-LANTERN
CHRISTMAS TREE;FATHER CHRISTMAS;FIREWORKS;FIREWORK SPARKLER;BALLOON;PARTY POPPER;CONFETTI BALL;TANABATA TREE
CROSSED FLAGS;PINE DECORATION;JAPANESE DOLLS;CARP STREAMER;WIND CHIME;MOON VIEWING CEREMONY;SCHOOL SATCHEL
GRADUATION CAP;HEART WITH TIP ON THE LEFT;BOUQUET OF FLOWERS;MILITARY MEDAL;REMINDER RIBBON
MUSICAL KEYBOARD WITH JACKS;STUDIO MICROPHONE;LEVEL SLIDER;CONTROL KNOBS;BEAMED ASCENDING MUSICAL NOTES
1DESCENDING MUSICAL NOTES;FILM FRAMES;ADMISSION TICKETS;CAROUSEL HORSE;FERRIS WHEEL;ROLLER COASTER
FISHING POLE AND FISH;MICROPHONE;MOVIE CAMERA;CINEMA;HEADPHONE;ARTIST PALETTE;TOP HAT;CIRCUS TENT;TICKET
CLAPPER BOARD;PERFORMING ARTS;VIDEO GAME;DIRECT HIT;SLOT MACHINE;BILLIARDS;GAME DIE;BOWLING;FLOWER PLAYING CARDS
MUSICAL NOTE;MULTIPLE MUSICAL NOTES;SAXOPHONE;GUITAR;MUSICAL KEYBOARD;TRUMPET;VIOLIN;MUSICAL SCORE
RUNNING SHIRT WITH SASH;TENNIS RACQUET AND BALL;SKI AND SKI BOOT;BASKETBALL AND HOOP;CHEQUERED FLAG;SNOWBOARDER
RUNNER;SURFER;SPORTS MEDAL;TROPHY;HORSE RACING;AMERICAN FOOTBALL;RUGBY FOOTBALL;SWIMMER;WEIGHT LIFTER;GOLFER
RACING MOTORCYCLE;1CAR;CRICKET BAT AND BALL;VOLLEYBALL;FIELD HOCKEY STICK AND BALL;ICE HOCKEY STICK AND PUCK
TABLE TENNIS PADDLE AND BALL;SNOW CAPPED MOUNTAIN;CAMPING;BEACH WITH UMBRELLA;BUILDING CONSTRUCTION;HOUSE BUILDINGS
CITYSCAPE;DERELICT HOUSE BUILDING;CLASSICAL BUILDING;DESERT;1ISLAND;NATIONAL PARK;STADIUM;HOUSE BUILDING
1WITH GARDEN;OFFICE BUILDING;JAPANESE POST OFFICE;EUROPEAN POST OFFICE;HOSPITAL;BANK;AUTOMATED TELLER MACHINE;HOTEL
LOVE HOTEL;CONVENIENCE STORE;SCHOOL;DEPARTMENT STORE;FACTORY;IZAKAYA LANTERN;JAPANESE CASTLE;EUROPEAN CASTLE
WHITE PENNANT;BLACK PENNANT;WAVING WHITE FLAG;1BLACK FLAG;ROSETTE;BLACK ROSETTE;LABEL
BADMINTON RACQUET AND SHUTTLECOCK;BOW AND ARROW;AMPHORA;EMOJI MODIFIER FITZPATRICK TYPE-1-2;4-3;4-4;4-5;4-6;RAT
MOUSE;OX;WATER BUFFALO;COW;TIGER;LEOPARD;RABBIT;CAT;DRAGON;CROCODILE;WHALE;SNAIL;SNAKE;HORSE;RAM;GOAT;SHEEP;MONKEY
ROOSTER;CHICKEN;DOG;PIG;BOAR;ELEPHANT;OCTOPUS;SPIRAL SHELL;BUG;ANT;HONEYBEE;LADY BEETLE;FISH;TROPICAL FISH;BLOWFISH
TURTLE;HATCHING CHICK;BABY CHICK;FRONT-FACING BABY CHICK;BIRD;PENGUIN;KOALA;POODLE;DROMEDARY CAMEL;BACTRIAN CAMEL
DOLPHIN;MOUSE FACE;COW FACE;TIGER FACE;RABBIT FACE;CAT FACE;DRAGON FACE;SPOUTING WHALE;HORSE FACE;MONKEY FACE
DOG FACE;PIG FACE;FROG FACE;HAMSTER FACE;WOLF FACE;BEAR FACE;PANDA FACE;PIG NOSE;PAW PRINTS;CHIPMUNK;EYES;EYE;EAR
NOSE;MOUTH;TONGUE;WHITE UP POINTING BACKHAND INDEX;1DOWN POINTING BACKHAND INDEX;1LEFT POINTING BACKHAND INDEX
1RIGHT POINTING BACKHAND INDEX;FISTED HAND SIGN;WAVING HAND SIGN;OK HAND SIGN;THUMBS UP SIGN;1DOWN SIGN
CLAPPING HANDS SIGN;OPEN HANDS SIGN;CROWN;WOMANS HAT;EYEGLASSES;NECKTIE;T-SHIRT;JEANS;DRESS;KIMONO;BIKINI
WOMANS CLOTHES;PURSE;HANDBAG;POUCH;MANS SHOE;ATHLETIC SHOE;HIGH-HEELED SHOE;WOMANS SANDAL;1BOOTS;FOOTPRINTS
BUST IN SILHOUETTE;BUSTS IN SILHOUETTE;BOY;GIRL;MAN;WOMAN;FAMILY;MAN AND WOMAN HOLDING HANDS;TWO MEN HOLDING HANDS
1WOMEN HOLDING HANDS;POLICE OFFICER;WOMAN WITH BUNNY EARS;BRIDE WITH VEIL;PERSON WITH BLOND HAIR;MAN WITH GUA PI MAO
2TURBAN;OLDER MAN;1WOMAN;BABY;CONSTRUCTION WORKER;PRINCESS;JAPANESE OGRE;1GOBLIN;GHOST;BABY ANGEL
EXTRATERRESTRIAL ALIEN;ALIEN MONSTER;IMP;SKULL;INFORMATION DESK PERSON;GUARDSMAN;DANCER;LIPSTICK;NAIL POLISH
FACE MASSAGE;HAIRCUT;BARBER POLE;SYRINGE;PILL;KISS MARK;LOVE LETTER;RING;GEM STONE;KISS;BOUQUET;COUPLE WITH HEART
WEDDING;BEATING HEART;BROKEN HEART;TWO HEARTS;SPARKLING HEART;GROWING HEART;HEART WITH ARROW;BLUE HEART;GREEN HEART
YELLOW HEART;PURPLE HEART;HEART WITH RIBBON;REVOLVING HEARTS;HEART DECORATION;DIAMOND SHAPE WITH A DOT INSIDE
ELECTRIC LIGHT BULB;ANGER SYMBOL;BOMB;SLEEPING SYMBOL;COLLISION SYMBOL;SPLASHING SWEAT SYMBOL;DROPLET;DASH SYMBOL
PILE OF POO;FLEXED BICEPS;DIZZY SYMBOL;SPEECH BALLOON;THOUGHT BALLOON;WHITE FLOWER;HUNDRED POINTS SYMBOL;MONEY BAG
CURRENCY EXCHANGE;HEAVY DOLLAR SIGN;CREDIT CARD;BANKNOTE WITH YEN SIGN;2DOLLAR SIGN;2EURO SIGN;2POUND SIGN
MONEY WITH WINGS;CHART WITH UPWARDS TREND AND YEN SIGN;SEAT;PERSONAL COMPUTER;BRIEFCASE;MINIDISC;FLOPPY DISK
OPTICAL DISC;DVD;FILE FOLDER;OPEN FILE FOLDER;PAGE WITH CURL;1FACING UP;CALENDAR;TEAR-OFF CALENDAR;CARD INDEX
CHART WITH UPWARDS TREND;2DOWNWARDS TREND;BAR CHART;CLIPBOARD;PUSHPIN;ROUND PUSHPIN;PAPERCLIP;STRAIGHT RULER
TRIANGULAR RULER;BOOKMARK TABS;LEDGER;NOTEBOOK;1WITH DECORATIVE COVER;CLOSED BOOK;OPEN BOOK;GREEN BOOK;BLUE BOOK
ORANGE BOOK;BOOKS;NAME BADGE;SCROLL;MEMO;TELEPHONE RECEIVER;PAGER;FAX MACHINE;SATELLITE ANTENNA
PUBLIC ADDRESS LOUDSPEAKER;CHEERING MEGAPHONE;OUTBOX TRAY;INBOX TRAY;PACKAGE;E-MAIL SYMBOL;INCOMING ENVELOPE
ENVELOPE WITH DOWNWARDS ARROW ABOVE;CLOSED MAILBOX WITH LOWERED FLAG;3RAISED FLAG;OPEN MAILBOX WITH RAISED FLAG
3LOWERED FLAG;POSTBOX;POSTAL HORN;NEWSPAPER;MOBILE PHONE;2WITH RIGHTWARDS ARROW AT LEFT;VIBRATION MODE
MOBILE PHONE OFF;NO MOBILE PHONES;ANTENNA WITH BARS;CAMERA;1WITH FLASH;VIDEO CAMERA;TELEVISION;RADIO;VIDEOCASSETTE
FILM PROJECTOR;PORTABLE STEREO;PRAYER BEADS;TWISTED RIGHTWARDS ARROWS
CLOCKWISE RIGHTWARDS AND LEFTWARDS OPEN CIRCLE ARROWS;7WITH CIRCLED ONE OVERLAY
1DOWNWARDS AND UPWARDS OPEN CIRCLE ARROWS;ANTICLOCKWISE DOWNWARDS AND UPWARDS OPEN CIRCLE ARROWS
LOW BRIGHTNESS SYMBOL;HIGH BRIGHTNESS SYMBOL;SPEAKER WITH CANCELLATION STROKE;1;1WITH ONE SOUND WAVE
2THREE SOUND WAVES;BATTERY;ELECTRIC PLUG;LEFT-POINTING MAGNIFYING GLASS;RIGHT-POINTING MAGNIFYING GLASS
LOCK WITH INK PEN;CLOSED LOCK WITH KEY;KEY;LOCK;OPEN LOCK;BELL;1WITH CANCELLATION STROKE;BOOKMARK;LINK SYMBOL
RADIO BUTTON;BACK WITH LEFTWARDS ARROW ABOVE;END WITH LEFTWARDS ARROW ABOVE
ON WITH EXCLAMATION MARK WITH LEFT RIGHT ARROW ABOVE;SOON WITH RIGHTWARDS ARROW ABOVE;TOP WITH UPWARDS ARROW ABOVE
NO ONE UNDER EIGHTEEN SYMBOL;KEYCAP TEN;INPUT SYMBOL FOR LATIN CAPITAL LETTERS;4SMALL LETTERS;3NUMBERS;3SYMBOLS
3LATIN LETTERS;FIRE;ELECTRIC TORCH;WRENCH;HAMMER;NUT AND BOLT;HOCHO;PISTOL;MICROSCOPE;TELESCOPE;CRYSTAL BALL
SIX POINTED STAR WITH MIDDLE DOT;JAPANESE SYMBOL FOR BEGINNER;TRIDENT EMBLEM;BLACK SQUARE BUTTON;WHITE SQUARE BUTTON
LARGE RED CIRCLE;1BLUE CIRCLE;1ORANGE DIAMOND;1BLUE DIAMOND;SMALL ORANGE DIAMOND;1BLUE DIAMOND
UP-POINTING RED TRIANGLE;DOWN-POINTING RED TRIANGLE;UP-POINTING SMALL RED TRIANGLE;DOWN-POINTING SMALL RED TRIANGLE
LOWER RIGHT SHADOWED WHITE CIRCLE;UPPER RIGHT SHADOWED WHITE CIRCLE;CIRCLED CROSS POMMEE
CROSS POMMEE WITH HALF-CIRCLE BELOW;2;NOTCHED LEFT SEMICIRCLE WITH THREE DOTS;1RIGHT SEMICIRCLE WITH THREE DOTS
SYMBOL FOR MARKS CHAPTER;WHITE LATIN CROSS;HEAVY LATIN CROSS;CELTIC CROSS;OM SYMBOL;DOVE OF PEACE;KAABA;MOSQUE
SYNAGOGUE;MENORAH WITH NINE BRANCHES;BOWL OF HYGIEIA;CLOCK FACE ONE OCLOCK;2TWO OCLOCK;2THREE OCLOCK;2FOUR OCLOCK
2FIVE OCLOCK;2SIX OCLOCK;2SEVEN OCLOCK;2EIGHT OCLOCK;2NINE OCLOCK;2TEN OCLOCK;2ELEVEN OCLOCK;2TWELVE OCLOCK
2ONE-THIRTY;2TWO-THIRTY;2THREE-THIRTY;2FOUR-THIRTY;2FIVE-THIRTY;2SIX-THIRTY;2SEVEN-THIRTY;2EIGHT-THIRTY;2NINE-THIRTY
2TEN-THIRTY;2ELEVEN-THIRTY;2TWELVE-THIRTY;RIGHT SPEAKER;2WITH ONE SOUND WAVE;3THREE SOUND WAVES;BULLHORN
1WITH SOUND WAVES;RINGING BELL;BOOK;CANDLE;MANTELPIECE CLOCK;BLACK SKULL AND CROSSBONES;NO PIRACY;HOLE
MAN IN BUSINESS SUIT LEVITATING;SLEUTH OR SPY;DARK SUNGLASSES;SPIDER;1WEB;JOYSTICK;MAN DANCING
LEFT HAND TELEPHONE RECEIVER;TELEPHONE RECEIVER WITH PAGE;RIGHT HAND TELEPHONE RECEIVER;WHITE TOUCHTONE TELEPHONE
BLACK TOUCHTONE TELEPHONE;TELEPHONE ON TOP OF MODEM;CLAMSHELL MOBILE PHONE;BACK OF ENVELOPE;STAMPED ENVELOPE
ENVELOPE WITH LIGHTNING;FLYING ENVELOPE;PEN OVER STAMPED ENVELOPE;LINKED PAPERCLIPS;BLACK PUSHPIN;LOWER LEFT PENCIL
2BALLPOINT PEN;2FOUNTAIN PEN;2PAINTBRUSH;2CRAYON;LEFT WRITING HAND;TURNED OK HAND SIGN
RAISED HAND WITH FINGERS SPLAYED;REVERSED RAISED HAND WITH FINGERS SPLAYED;1THUMBS UP SIGN;2DOWN SIGN;1VICTORY HAND
1HAND WITH MIDDLE FINGER EXTENDED;RAISED HAND WITH PART BETWEEN MIDDLE AND RING FINGERS
WHITE DOWN POINTING LEFT HAND INDEX;SIDEWAYS WHITE LEFT POINTING INDEX;2RIGHT POINTING INDEX
1BLACK LEFT POINTING INDEX;2RIGHT POINTING INDEX;BLACK LEFT POINTING BACKHAND INDEX;1RIGHT POINTING BACKHAND INDEX
SIDEWAYS WHITE UP POINTING INDEX;2DOWN POINTING INDEX;1BLACK UP POINTING INDEX;2DOWN POINTING INDEX
BLACK UP POINTING BACKHAND INDEX;1DOWN POINTING BACKHAND INDEX;1HEART;DESKTOP COMPUTER;KEYBOARD AND MOUSE
THREE NETWORKED COMPUTERS;PRINTER;POCKET CALCULATOR;BLACK HARD SHELL FLOPPY DISK;WHITE HARD SHELL FLOPPY DISK
SOFT SHELL FLOPPY DISK;TAPE CARTRIDGE;WIRED KEYBOARD;ONE BUTTON MOUSE;TWO BUTTON MOUSE;THREE BUTTON MOUSE;TRACKBALL
OLD PERSONAL COMPUTER;HARD DISK;SCREEN;PRINTER ICON;FAX ICON;OPTICAL DISC ICON;DOCUMENT WITH TEXT;3AND PICTURE
2PICTURE;FRAME WITH PICTURE;2TILES;2AN X;BLACK FOLDER;FOLDER;OPEN FOLDER;CARD INDEX DIVIDERS;1FILE BOX;FILE CABINET
EMPTY NOTE;2PAGE;2PAD;NOTE;1PAGE;1PAD;EMPTY DOCUMENT;1PAGE;1PAGES;DOCUMENT;PAGE;PAGES;WASTEBASKET;SPIRAL NOTE PAD
1CALENDAR PAD;DESKTOP WINDOW;MINIMIZE;MAXIMIZE;OVERLAP;CLOCKWISE RIGHT AND LEFT SEMICIRCLE ARROWS;CANCELLATION X
INCREASE FONT SIZE SYMBOL;DECREASE FONT SIZE SYMBOL;COMPRESSION;OLD KEY;ROLLED-UP NEWSPAPER;PAGE WITH CIRCLED TEXT
STOCK CHART;DAGGER KNIFE;LIPS;SPEAKING HEAD IN SILHOUETTE;THREE RAYS ABOVE;2BELOW;2LEFT;2RIGHT;LEFT SPEECH BUBBLE
RIGHT SPEECH BUBBLE;TWO SPEECH BUBBLES;THREE SPEECH BUBBLES;LEFT THOUGHT BUBBLE;RIGHT THOUGHT BUBBLE
LEFT ANGER BUBBLE;RIGHT ANGER BUBBLE;MOOD BUBBLE;LIGHTNING MOOD BUBBLE;2;BALLOT BOX WITH BALLOT;1SCRIPT X
1BOX WITH SCRIPT X;1BOLD SCRIPT X;1BOX WITH BOLD SCRIPT X;LIGHT CHECK MARK;BALLOT BOX WITH BOLD CHECK;WORLD MAP
MOUNT FUJI;TOKYO TOWER;STATUE OF LIBERTY;SILHOUETTE OF JAPAN;MOYAI;GRINNING FACE;2WITH SMILING EYES
FACE WITH TEARS OF JOY;SMILING FACE WITH OPEN MOUTH;5AND SMILING EYES;6COLD SWEAT;6TIGHTLY-CLOSED EYES;3HALO;3HORNS
WINKING FACE;SMILING FACE WITH SMILING EYES;FACE SAVOURING DELICIOUS FOOD;RELIEVED FACE
SMILING FACE WITH HEART-SHAPED EYES;3SUNGLASSES;SMIRKING FACE;NEUTRAL FACE;EXPRESSIONLESS FACE;UNAMUSED FACE
FACE WITH COLD SWEAT;PENSIVE FACE;CONFUSED FACE;CONFOUNDED FACE;KISSING FACE;FACE THROWING A KISS
KISSING FACE WITH SMILING EYES;3CLOSED EYES;FACE WITH STUCK-OUT TONGUE;5AND WINKING EYE;6TIGHTLY-CLOSED EYES
DISAPPOINTED FACE;WORRIED FACE;ANGRY FACE;POUTING FACE;CRYING FACE;PERSEVERING FACE;FACE WITH LOOK OF TRIUMPH
DISAPPOINTED BUT RELIEVED FACE;FROWNING FACE WITH OPEN MOUTH;ANGUISHED FACE;FEARFUL FACE;WEARY FACE;SLEEPY FACE
TIRED FACE;GRIMACING FACE;LOUDLY CRYING FACE;FACE WITH OPEN MOUTH;HUSHED FACE;FACE WITH OPEN MOUTH AND COLD SWEAT
1SCREAMING IN FEAR;ASTONISHED FACE;FLUSHED FACE;SLEEPING FACE;DIZZY FACE;FACE WITHOUT MOUTH;1WITH MEDICAL MASK
GRINNING CAT FACE WITH SMILING EYES;CAT FACE WITH TEARS OF JOY;SMILING CAT FACE WITH OPEN MOUTH;4HEART-SHAPED EYES
CAT FACE WITH WRY SMILE;KISSING CAT FACE WITH CLOSED EYES;POUTING CAT FACE;CRYING CAT FACE;WEARY CAT FACE
SLIGHTLY FROWNING FACE;1SMILING FACE;UPSIDE-DOWN FACE;FACE WITH ROLLING EYES;2NO GOOD GESTURE;2OK GESTURE
PERSON BOWING DEEPLY;SEE-NO-EVIL MONKEY;HEAR-NO-EVIL MONKEY;SPEAK-NO-EVIL MONKEY;HAPPY PERSON RAISING ONE HAND
PERSON RAISING BOTH HANDS IN CELEBRATION;1FROWNING;1WITH POUTING FACE;2FOLDED HANDS;NORTH WEST POINTING LEAF
SOUTH WEST POINTING LEAF;NORTH EAST POINTING LEAF;SOUTH EAST POINTING LEAF;TURNED NORTH WEST POINTING LEAF
1SOUTH WEST POINTING LEAF;1NORTH EAST POINTING LEAF;1SOUTH EAST POINTING LEAF;NORTH WEST POINTING VINE LEAF
SOUTH WEST POINTING VINE LEAF;NORTH EAST POINTING VINE LEAF;SOUTH EAST POINTING VINE LEAF
HEAVY NORTH WEST POINTING VINE LEAF;1SOUTH WEST POINTING VINE LEAF;1NORTH EAST POINTING VINE LEAF
1SOUTH EAST POINTING VINE LEAF;NORTH WEST POINTING BUD;SOUTH WEST POINTING BUD;NORTH EAST POINTING BUD
SOUTH EAST POINTING BUD;HEAVY NORTH WEST POINTING BUD;1SOUTH WEST POINTING BUD;1NORTH EAST POINTING BUD
1SOUTH EAST POINTING BUD;HOLLOW QUILT SQUARE ORNAMENT;4IN BLACK SQUARE;SOLID QUILT SQUARE ORNAMENT;4IN BLACK SQUARE
LEFTWARDS ROCKET;UPWARDS ROCKET;RIGHTWARDS ROCKET;DOWNWARDS ROCKET;SCRIPT LIGATURE ET ORNAMENT
HEAVY SCRIPT LIGATURE ET ORNAMENT;LIGATURE OPEN ET ORNAMENT;HEAVY LIGATURE OPEN ET ORNAMENT;1AMPERSAND ORNAMENT
SWASH AMPERSAND ORNAMENT;SANS-SERIF HEAVY DOUBLE TURNED COMMA QUOTATION MARK ORNAMENT;4COMMA QUOTATION MARK ORNAMENT
3LOW DOUBLE COMMA QUOTATION MARK ORNAMENT;HEAVY INTERROBANG ORNAMENT;SANS-SERIF INTERROBANG ORNAMENT
HEAVY SANS-SERIF INTERROBANG ORNAMENT;VERY HEAVY SOLIDUS;2REVERSE SOLIDUS;CHECKER BOARD;REVERSE CHECKER BOARD;ROCKET
HELICOPTER;STEAM LOCOMOTIVE;RAILWAY CAR;HIGH-SPEED TRAIN;3WITH BULLET NOSE;TRAIN;METRO;LIGHT RAIL;STATION;TRAM;1CAR
BUS;ONCOMING BUS;TROLLEYBUS;BUS STOP;MINIBUS;AMBULANCE;FIRE ENGINE;POLICE CAR;ONCOMING POLICE CAR;TAXI;ONCOMING TAXI
AUTOMOBILE;ONCOMING AUTOMOBILE;RECREATIONAL VEHICLE;DELIVERY TRUCK;ARTICULATED LORRY;TRACTOR;MONORAIL
MOUNTAIN RAILWAY;SUSPENSION RAILWAY;MOUNTAIN CABLEWAY;AERIAL TRAMWAY;SHIP;ROWBOAT;SPEEDBOAT;HORIZONTAL TRAFFIC LIGHT
VERTICAL TRAFFIC LIGHT;CONSTRUCTION SIGN;POLICE CARS REVOLVING LIGHT;TRIANGULAR FLAG ON POST;DOOR;NO ENTRY SIGN
SMOKING SYMBOL;NO SMOKING SYMBOL;PUT LITTER IN ITS PLACE SYMBOL;DO NOT LITTER SYMBOL;POTABLE WATER SYMBOL
NON-POTABLE WATER SYMBOL;BICYCLE;NO BICYCLES;BICYCLIST;MOUNTAIN BICYCLIST;PEDESTRIAN;NO PEDESTRIANS
CHILDREN CROSSING;MENS SYMBOL;WOMENS SYMBOL;RESTROOM;BABY SYMBOL;TOILET;WATER CLOSET;SHOWER;BATH;BATHTUB
PASSPORT CONTROL;CUSTOMS;BAGGAGE CLAIM;LEFT LUGGAGE;TRIANGLE WITH ROUNDED CORNERS;PROHIBITED SIGN
CIRCLED INFORMATION SOURCE;BOYS SYMBOL;GIRLS SYMBOL;COUCH AND LAMP;SLEEPING ACCOMMODATION;SHOPPING BAGS;BELLHOP BELL
BED;PLACE OF WORSHIP;OCTAGONAL SIGN;SHOPPING TROLLEY;STUPA;PAGODA;HINDU TEMPLE;HUT;ELEVATOR;1F6DD:PLAYGROUND SLIDE
WHEEL;RING BUOY;HAMMER AND WRENCH;SHIELD;OIL DRUM;MOTORWAY;RAILWAY TRACK;MOTOR BOAT;UP-POINTING MILITARY AIRPLANE
2AIRPLANE;2SMALL AIRPLANE;SMALL AIRPLANE;NORTHEAST-POINTING AIRPLANE;AIRPLANE DEPARTURE;1ARRIVING;1F6F0:SATELLITE
ONCOMING FIRE ENGINE;DIESEL LOCOMOTIVE;PASSENGER SHIP;SCOOTER;MOTOR SCOOTER;CANOE;SLED;FLYING SAUCER;SKATEBOARD
AUTO RICKSHAW;PICKUP TRUCK;ROLLER SKATE;1F700:ALCHEMICAL SYMBOL FOR QUINTESSENCE;3AIR;3FIRE;3EARTH;3WATER
3AQUAFORTIS;3AQUA REGIA;5-2;4VITAE;5-2;3VINEGAR;4-2;4-3;3SULFUR;3PHILOSOPHERS SULFUR;3BLACK SULFUR
3MERCURY SUBLIMATE;5-2;5-3;3CINNABAR;3SALT;3NITRE;3VITRIOL;4-2;3ROCK SALT;5-2;3GOLD;3SILVER;3IRON ORE;5-2
3CROCUS OF IRON;3REGULUS OF IRON;3COPPER ORE;3IRON-COPPER ORE;3SUBLIMATE OF COPPER;3CROCUS OF COPPER;6-2
3COPPER ANTIMONIATE;3SALT OF COPPER ANTIMONIATE;3SUBLIMATE OF SALT OF COPPER;3VERDIGRIS;3TIN ORE;3LEAD ORE
3ANTIMONY ORE;3SUBLIMATE OF ANTIMONY;3SALT OF ANTIMONY;3SUBLIMATE OF SALT OF ANTIMONY;3VINEGAR OF ANTIMONY
3REGULUS OF ANTIMONY;6-2;4;4-2;4-3;4-4;3ALKALI;4-2;3MARCASITE;3SAL-AMMONIAC;3ARSENIC;3REALGAR;4-2;3AURIPIGMENT
3BISMUTH ORE;3TARTAR;4-2;3QUICK LIME;3BORAX;4-2;4-3;3ALUM;3OIL;3SPIRIT;3TINCTURE;3GUM;3WAX;3POWDER;3CALX;3TUTTY
3CAPUT MORTUUM;3SCEPTER OF JOVE;3CADUCEUS;3TRIDENT;3STARRED TRIDENT;3LODESTONE;3SOAP;3URINE;3HORSE DUNG;3ASHES
3POT ASHES;3BRICK;3POWDERED BRICK;3AMALGAM;3STRATUM SUPER STRATUM;6-2;3SUBLIMATION;3PRECIPITATE;3DISTILL;3DISSOLVE
4-2;3PURIFY;3PUTREFACTION;3CRUCIBLE;4-2;4-3;4-4;4-5;3ALEMBIC;3BATH OF MARY;5VAPOURS;3RETORT;3HOUR;3NIGHT;3DAY-NIGHT
3MONTH;3HALF DRAM;4OUNCE;1F780:BLACK LEFT-POINTING ISOSCELES RIGHT TRIANGLE;1UP-POINTING ISOSCELES RIGHT TRIANGLE
1RIGHT-POINTING ISOSCELES RIGHT TRIANGLE;1DOWN-POINTING ISOSCELES RIGHT TRIANGLE;1SLIGHTLY SMALL CIRCLE
MEDIUM BOLD WHITE CIRCLE;BOLD WHITE CIRCLE;HEAVY WHITE CIRCLE;VERY HEAVY WHITE CIRCLE;EXTREMELY HEAVY WHITE CIRCLE
WHITE CIRCLE CONTAINING BLACK SMALL CIRCLE;ROUND TARGET;BLACK TINY SQUARE;1SLIGHTLY SMALL SQUARE;LIGHT WHITE SQUARE
MEDIUM WHITE SQUARE;BOLD WHITE SQUARE;HEAVY WHITE SQUARE;VERY HEAVY WHITE SQUARE;EXTREMELY HEAVY WHITE SQUARE
WHITE SQUARE CONTAINING BLACK VERY SMALL SQUARE;4MEDIUM SQUARE;SQUARE TARGET;BLACK TINY DIAMOND;1VERY SMALL DIAMOND
1MEDIUM SMALL DIAMOND;WHITE DIAMOND CONTAINING BLACK VERY SMALL DIAMOND;4MEDIUM DIAMOND;DIAMOND TARGET
BLACK TINY LOZENGE;1VERY SMALL LOZENGE;1MEDIUM SMALL LOZENGE;WHITE LOZENGE CONTAINING BLACK SMALL LOZENGE
THIN GREEK CROSS;LIGHT GREEK CROSS;MEDIUM GREEK CROSS;BOLD GREEK CROSS;VERY BOLD GREEK CROSS;1HEAVY GREEK CROSS
EXTREMELY HEAVY GREEK CROSS;THIN SALTIRE;LIGHT SALTIRE;MEDIUM SALTIRE;BOLD SALTIRE;HEAVY SALTIRE;VERY HEAVY SALTIRE
EXTREMELY HEAVY SALTIRE;LIGHT FIVE SPOKED ASTERISK;MEDIUM FIVE SPOKED ASTERISK;BOLD FIVE SPOKED ASTERISK
HEAVY FIVE SPOKED ASTERISK;VERY HEAVY FIVE SPOKED ASTERISK;EXTREMELY HEAVY FIVE SPOKED ASTERISK
LIGHT SIX SPOKED ASTERISK;MEDIUM SIX SPOKED ASTERISK;BOLD SIX SPOKED ASTERISK;HEAVY SIX SPOKED ASTERISK
VERY HEAVY SIX SPOKED ASTERISK;EXTREMELY HEAVY SIX SPOKED ASTERISK;LIGHT EIGHT SPOKED ASTERISK
MEDIUM EIGHT SPOKED ASTERISK;BOLD EIGHT SPOKED ASTERISK;HEAVY EIGHT SPOKED ASTERISK;VERY HEAVY EIGHT SPOKED ASTERISK
LIGHT THREE POINTED BLACK STAR;MEDIUM THREE POINTED BLACK STAR;THREE POINTED BLACK STAR
MEDIUM THREE POINTED PINWHEEL STAR;LIGHT FOUR POINTED BLACK STAR;MEDIUM FOUR POINTED BLACK STAR
FOUR POINTED BLACK STAR;MEDIUM FOUR POINTED PINWHEEL STAR;REVERSE LIGHT FOUR POINTED PINWHEEL STAR
LIGHT FIVE POINTED BLACK STAR;HEAVY FIVE POINTED BLACK STAR;MEDIUM SIX POINTED BLACK STAR
HEAVY SIX POINTED BLACK STAR;SIX POINTED PINWHEEL STAR;MEDIUM EIGHT POINTED BLACK STAR
HEAVY EIGHT POINTED BLACK STAR;VERY HEAVY EIGHT POINTED BLACK STAR;HEAVY EIGHT POINTED PINWHEEL STAR
LIGHT TWELVE POINTED BLACK STAR;HEAVY TWELVE POINTED BLACK STAR;3PINWHEEL STAR;CIRCLED TRIANGLE
NEGATIVE CIRCLED TRIANGLE;CIRCLED SQUARE;NEGATIVE CIRCLED SQUARE;1F7E0:LARGE ORANGE CIRCLE;1YELLOW CIRCLE
1GREEN CIRCLE;1PURPLE CIRCLE;1BROWN CIRCLE;1RED SQUARE;1BLUE SQUARE;1ORANGE SQUARE;1YELLOW SQUARE;1GREEN SQUARE
1PURPLE SQUARE;1BROWN SQUARE;1F7F0:HEAVY EQUALS SIGN;1F800:LEFTWARDS ARROW WITH SMALL TRIANGLE ARROWHEAD
UPWARDS ARROW WITH SMALL TRIANGLE ARROWHEAD;RIGHTWARDS ARROW WITH SMALL TRIANGLE ARROWHEAD
DOWNWARDS ARROW WITH SMALL TRIANGLE ARROWHEAD;LEFTWARDS ARROW WITH MEDIUM TRIANGLE ARROWHEAD
UPWARDS ARROW WITH MEDIUM TRIANGLE ARROWHEAD;RIGHTWARDS ARROW WITH MEDIUM TRIANGLE ARROWHEAD
DOWNWARDS ARROW WITH MEDIUM TRIANGLE ARROWHEAD;LEFTWARDS ARROW WITH LARGE TRIANGLE ARROWHEAD
UPWARDS ARROW WITH LARGE TRIANGLE ARROWHEAD;RIGHTWARDS ARROW WITH LARGE TRIANGLE ARROWHEAD
DOWNWARDS ARROW WITH LARGE TRIANGLE ARROWHEAD;1F810:LEFTWARDS ARROW WITH SMALL EQUILATERAL ARROWHEAD
UPWARDS ARROW WITH SMALL EQUILATERAL ARROWHEAD;RIGHTWARDS ARROW WITH SMALL EQUILATERAL ARROWHEAD
DOWNWARDS ARROW WITH SMALL EQUILATERAL ARROWHEAD;LEFTWARDS ARROW WITH EQUILATERAL ARROWHEAD
UPWARDS ARROW WITH EQUILATERAL ARROWHEAD;RIGHTWARDS ARROW WITH EQUILATERAL ARROWHEAD
DOWNWARDS ARROW WITH EQUILATERAL ARROWHEAD;HEAVY LEFTWARDS ARROW WITH EQUILATERAL ARROWHEAD
1UPWARDS ARROW WITH EQUILATERAL ARROWHEAD;1RIGHTWARDS ARROW WITH EQUILATERAL ARROWHEAD
1DOWNWARDS ARROW WITH EQUILATERAL ARROWHEAD;1LEFTWARDS ARROW WITH LARGE EQUILATERAL ARROWHEAD
1UPWARDS ARROW WITH LARGE EQUILATERAL ARROWHEAD;1RIGHTWARDS ARROW WITH LARGE EQUILATERAL ARROWHEAD
1DOWNWARDS ARROW WITH LARGE EQUILATERAL ARROWHEAD;LEFTWARDS TRIANGLE-HEADED ARROW WITH NARROW SHAFT
UPWARDS TRIANGLE-HEADED ARROW WITH NARROW SHAFT;RIGHTWARDS TRIANGLE-HEADED ARROW WITH NARROW SHAFT
DOWNWARDS TRIANGLE-HEADED ARROW WITH NARROW SHAFT;LEFTWARDS TRIANGLE-HEADED ARROW WITH MEDIUM SHAFT
UPWARDS TRIANGLE-HEADED ARROW WITH MEDIUM SHAFT;RIGHTWARDS TRIANGLE-HEADED ARROW WITH MEDIUM SHAFT
DOWNWARDS TRIANGLE-HEADED ARROW WITH MEDIUM SHAFT;LEFTWARDS TRIANGLE-HEADED ARROW WITH BOLD SHAFT
UPWARDS TRIANGLE-HEADED ARROW WITH BOLD SHAFT;RIGHTWARDS TRIANGLE-HEADED ARROW WITH BOLD SHAFT
DOWNWARDS TRIANGLE-HEADED ARROW WITH BOLD SHAFT;LEFTWARDS TRIANGLE-HEADED ARROW WITH HEAVY SHAFT
UPWARDS TRIANGLE-HEADED ARROW WITH HEAVY SHAFT;RIGHTWARDS TRIANGLE-HEADED ARROW WITH HEAVY SHAFT
DOWNWARDS TRIANGLE-HEADED ARROW WITH HEAVY SHAFT;LEFTWARDS TRIANGLE-HEADED ARROW WITH VERY HEAVY SHAFT
UPWARDS TRIANGLE-HEADED ARROW WITH VERY HEAVY SHAFT;RIGHTWARDS TRIANGLE-HEADED ARROW WITH VERY HEAVY SHAFT
DOWNWARDS TRIANGLE-HEADED ARROW WITH VERY HEAVY SHAFT;LEFTWARDS FINGER-POST ARROW;UPWARDS FINGER-POST ARROW
RIGHTWARDS FINGER-POST ARROW;DOWNWARDS FINGER-POST ARROW;LEFTWARDS SQUARED ARROW;UPWARDS SQUARED ARROW
RIGHTWARDS SQUARED ARROW;DOWNWARDS SQUARED ARROW;LEFTWARDS COMPRESSED ARROW;UPWARDS COMPRESSED ARROW
RIGHTWARDS COMPRESSED ARROW;DOWNWARDS COMPRESSED ARROW;LEFTWARDS HEAVY COMPRESSED ARROW
UPWARDS HEAVY COMPRESSED ARROW;RIGHTWARDS HEAVY COMPRESSED ARROW;DOWNWARDS HEAVY COMPRESSED ARROW
LEFTWARDS HEAVY ARROW;UPWARDS HEAVY ARROW;RIGHTWARDS HEAVY ARROW;DOWNWARDS HEAVY ARROW
1F850:LEFTWARDS SANS-SERIF ARROW;UPWARDS SANS-SERIF ARROW;RIGHTWARDS SANS-SERIF ARROW;DOWNWARDS SANS-SERIF ARROW
NORTH WEST SANS-SERIF ARROW;1EAST SANS-SERIF ARROW;SOUTH EAST SANS-SERIF ARROW;1WEST SANS-SERIF ARROW
LEFT RIGHT SANS-SERIF ARROW;UP DOWN SANS-SERIF ARROW;1F860:WIDE-HEADED LEFTWARDS LIGHT BARB ARROW
2UPWARDS LIGHT BARB ARROW;2RIGHTWARDS LIGHT BARB ARROW;2DOWNWARDS LIGHT BARB ARROW;2NORTH WEST LIGHT BARB ARROW
3EAST LIGHT BARB ARROW;2SOUTH EAST LIGHT BARB ARROW;3WEST LIGHT BARB ARROW;2LEFTWARDS BARB ARROW;2UPWARDS BARB ARROW
2RIGHTWARDS BARB ARROW;2DOWNWARDS BARB ARROW;2NORTH WEST BARB ARROW;3EAST BARB ARROW;2SOUTH EAST BARB ARROW
3WEST BARB ARROW;2LEFTWARDS MEDIUM BARB ARROW;2UPWARDS MEDIUM BARB ARROW;2RIGHTWARDS MEDIUM BARB ARROW
2DOWNWARDS MEDIUM BARB ARROW;2NORTH WEST MEDIUM BARB ARROW;3EAST MEDIUM BARB ARROW;2SOUTH EAST MEDIUM BARB ARROW
3WEST MEDIUM BARB ARROW;2LEFTWARDS HEAVY BARB ARROW;2UPWARDS HEAVY BARB ARROW;2RIGHTWARDS HEAVY BARB ARROW
2DOWNWARDS HEAVY BARB ARROW;2NORTH WEST HEAVY BARB ARROW;3EAST HEAVY BARB ARROW;2SOUTH EAST HEAVY BARB ARROW
3WEST HEAVY BARB ARROW;2LEFTWARDS VERY HEAVY BARB ARROW;2UPWARDS VERY HEAVY BARB ARROW
2RIGHTWARDS VERY HEAVY BARB ARROW;2DOWNWARDS VERY HEAVY BARB ARROW;2NORTH WEST VERY HEAVY BARB ARROW
3EAST VERY HEAVY BARB ARROW;2SOUTH EAST VERY HEAVY BARB ARROW;3WEST VERY HEAVY BARB ARROW
1F890:LEFTWARDS TRIANGLE ARROWHEAD;UPWARDS TRIANGLE ARROWHEAD;RIGHTWARDS TRIANGLE ARROWHEAD
DOWNWARDS TRIANGLE ARROWHEAD;LEFTWARDS WHITE ARROW WITHIN TRIANGLE ARROWHEAD
UPWARDS WHITE ARROW WITHIN TRIANGLE ARROWHEAD;RIGHTWARDS WHITE ARROW WITHIN TRIANGLE ARROWHEAD
DOWNWARDS WHITE ARROW WITHIN TRIANGLE ARROWHEAD;LEFTWARDS ARROW WITH NOTCHED TAIL;UPWARDS ARROW WITH NOTCHED TAIL
RIGHTWARDS ARROW WITH NOTCHED TAIL;DOWNWARDS ARROW WITH NOTCHED TAIL;HEAVY ARROW SHAFT WIDTH ONE;4TWO THIRDS
4ONE HALF;5THIRD;LEFTWARDS BOTTOM-SHADED WHITE ARROW;RIGHTWARDS BOTTOM SHADED WHITE ARROW
LEFTWARDS TOP SHADED WHITE ARROW;RIGHTWARDS TOP SHADED WHITE ARROW;LEFTWARDS LEFT-SHADED WHITE ARROW
RIGHTWARDS RIGHT-SHADED WHITE ARROW;LEFTWARDS RIGHT-SHADED WHITE ARROW;RIGHTWARDS LEFT-SHADED WHITE ARROW
LEFTWARDS BACK-TILTED SHADOWED WHITE ARROW;RIGHTWARDS BACK-TILTED SHADOWED WHITE ARROW
LEFTWARDS FRONT-TILTED SHADOWED WHITE ARROW;RIGHTWARDS FRONT-TILTED SHADOWED WHITE ARROW;WHITE ARROW SHAFT WIDTH ONE
4TWO THIRDS;1F8B0:ARROW POINTING UPWARDS THEN NORTH WEST;2RIGHTWARDS THEN CURVING SOUTH WEST
1F900:CIRCLED CROSS FORMEE WITH FOUR DOTS;4TWO DOTS;3;LEFT HALF CIRCLE WITH FOUR DOTS;4THREE DOTS;4TWO DOTS;4DOT;3
DOWNWARD FACING HOOK;2NOTCHED HOOK;2HOOK WITH DOT;2NOTCHED HOOK WITH DOT;PINCHED FINGERS;WHITE HEART;BROWN HEART
PINCHING HAND;ZIPPER-MOUTH FACE;MONEY-MOUTH FACE;FACE WITH THERMOMETER;NERD FACE;THINKING FACE
FACE WITH HEAD-BANDAGE;ROBOT FACE;HUGGING FACE;SIGN OF THE HORNS;CALL ME HAND;RAISED BACK OF HAND;LEFT-FACING FIST
RIGHT-FACING FIST;HANDSHAKE;HAND WITH INDEX AND MIDDLE FINGERS CROSSED;I LOVE YOU HAND SIGN;FACE WITH COWBOY HAT
CLOWN FACE;NAUSEATED FACE;ROLLING ON THE FLOOR LAUGHING;DROOLING FACE;LYING FACE;FACE PALM;SNEEZING FACE
FACE WITH ONE EYEBROW RAISED;GRINNING FACE WITH STAR EYES;3ONE LARGE AND ONE SMALL EYE
FACE WITH FINGER COVERING CLOSED LIPS;SERIOUS FACE WITH SYMBOLS COVERING MOUTH
SMILING FACE WITH SMILING EYES AND HAND COVERING MOUTH;FACE WITH OPEN MOUTH VOMITING
SHOCKED FACE WITH EXPLODING HEAD;PREGNANT WOMAN;BREAST-FEEDING;PALMS UP TOGETHER;SELFIE;PRINCE;MAN IN TUXEDO
MOTHER CHRISTMAS;SHRUG;PERSON DOING CARTWHEEL;JUGGLING;FENCER;MODERN PENTATHLON;WRESTLERS;WATER POLO;HANDBALL
DIVING MASK;WILTED FLOWER;DRUM WITH DRUMSTICKS;CLINKING GLASSES;TUMBLER GLASS;SPOON;GOAL NET;RIFLE;FIRST PLACE MEDAL
SECOND PLACE MEDAL;THIRD PLACE MEDAL;BOXING GLOVE;MARTIAL ARTS UNIFORM;CURLING STONE;LACROSSE STICK AND BALL
SOFTBALL;FLYING DISC;CROISSANT;AVOCADO;CUCUMBER;BACON;POTATO;CARROT;BAGUETTE BREAD;GREEN SALAD;SHALLOW PAN OF FOOD
STUFFED FLATBREAD;EGG;GLASS OF MILK;PEANUTS;KIWIFRUIT;PANCAKES;DUMPLING;FORTUNE COOKIE;TAKEOUT BOX;CHOPSTICKS
BOWL WITH SPOON;CUP WITH STRAW;COCONUT;BROCCOLI;PIE;PRETZEL;CUT OF MEAT;SANDWICH;CANNED FOOD;LEAFY GREEN;MANGO
MOON CAKE;BAGEL;SMILING FACE WITH SMILING EYES AND THREE HEARTS;YAWNING FACE;SMILING FACE WITH TEAR
FACE WITH PARTY HORN AND PARTY HAT;2UNEVEN EYES AND WAVY MOUTH;OVERHEATED FACE;FREEZING FACE;NINJA;DISGUISED FACE
FACE HOLDING BACK TEARS;1WITH PLEADING EYES;SARI;LAB COAT;GOGGLES;HIKING BOOT;FLAT SHOE;CRAB;LION FACE;SCORPION
TURKEY;UNICORN FACE;EAGLE;DUCK;BAT;SHARK;OWL;FOX FACE;BUTTERFLY;DEER;GORILLA;LIZARD;RHINOCEROS;SHRIMP;SQUID
GIRAFFE FACE;ZEBRA FACE;HEDGEHOG;SAUROPOD;T-REX;CRICKET;KANGAROO;LLAMA;PEACOCK;HIPPOPOTAMUS;PARROT;RACCOON;LOBSTER
MOSQUITO;MICROBE;BADGER;SWAN;MAMMOTH;DODO;SLOTH;OTTER;ORANGUTAN;SKUNK;FLAMINGO;OYSTER;BEAVER;BISON;SEAL;GUIDE DOG
PROBING CANE;EMOJI COMPONENT RED HAIR;2CURLY HAIR;2BALD;2WHITE HAIR;BONE;LEG;FOOT;TOOTH;SUPERHERO;SUPERVILLAIN
SAFETY VEST;EAR WITH HEARING AID;MOTORIZED WHEELCHAIR;MANUAL WHEELCHAIR;MECHANICAL ARM;1LEG;CHEESE WEDGE;CUPCAKE
SALT SHAKER;BEVERAGE BOX;GARLIC;ONION;FALAFEL;WAFFLE;BUTTER;MATE DRINK;ICE CUBE;BUBBLE TEA;TROLL;STANDING PERSON
KNEELING PERSON;DEAF PERSON;FACE WITH MONOCLE;ADULT;CHILD;OLDER ADULT;BEARDED PERSON;PERSON WITH HEADSCARF
1IN STEAMY ROOM;1CLIMBING;1IN LOTUS POSITION;MAGE;FAIRY;VAMPIRE;MERPERSON;ELF;GENIE;ZOMBIE;BRAIN;ORANGE HEART
BILLED CAP;SCARF;GLOVES;COAT;SOCKS;RED GIFT ENVELOPE;FIRECRACKER;JIGSAW PUZZLE PIECE;TEST TUBE;PETRI DISH
DNA DOUBLE HELIX;COMPASS;ABACUS;FIRE EXTINGUISHER;TOOLBOX;BRICK;MAGNET;LUGGAGE;LOTION BOTTLE;SPOOL OF THREAD
BALL OF YARN;SAFETY PIN;TEDDY BEAR;BROOM;BASKET;ROLL OF PAPER;BAR OF SOAP;SPONGE;RECEIPT;NAZAR AMULET
NEUTRAL CHESS KING;2QUEEN;2ROOK;2BISHOP;2KNIGHT;2PAWN;WHITE CHESS KNIGHT ROTATED FORTY-FIVE DEGREES
BLACK CHESS KNIGHT ROTATED FORTY-FIVE DEGREES;NEUTRAL CHESS KNIGHT ROTATED FORTY-FIVE DEGREES
WHITE CHESS KING ROTATED NINETY DEGREES;2QUEEN ROTATED NINETY DEGREES;2ROOK ROTATED NINETY DEGREES
2BISHOP ROTATED NINETY DEGREES;2KNIGHT ROTATED NINETY DEGREES;2PAWN ROTATED NINETY DEGREES
BLACK CHESS KING ROTATED NINETY DEGREES;2QUEEN ROTATED NINETY DEGREES;2ROOK ROTATED NINETY DEGREES
2BISHOP ROTATED NINETY DEGREES;2KNIGHT ROTATED NINETY DEGREES;2PAWN ROTATED NINETY DEGREES
NEUTRAL CHESS KING ROTATED NINETY DEGREES;2QUEEN ROTATED NINETY DEGREES;2ROOK ROTATED NINETY DEGREES
2BISHOP ROTATED NINETY DEGREES;2KNIGHT ROTATED NINETY DEGREES;2PAWN ROTATED NINETY DEGREES
WHITE CHESS KNIGHT ROTATED ONE HUNDRED THIRTY-FIVE DEGREES
BLACK CHESS KNIGHT ROTATED ONE HUNDRED THIRTY-FIVE DEGREES
NEUTRAL CHESS KNIGHT ROTATED ONE HUNDRED THIRTY-FIVE DEGREES;WHITE CHESS TURNED KING;3QUEEN;3ROOK;3BISHOP;3KNIGHT
3PAWN;BLACK CHESS TURNED KING;3QUEEN;3ROOK;3BISHOP;3KNIGHT;3PAWN;NEUTRAL CHESS TURNED KING;3QUEEN;3ROOK;3BISHOP
3KNIGHT;3PAWN;WHITE CHESS KNIGHT ROTATED TWO HUNDRED TWENTY-FIVE DEGREES
BLACK CHESS KNIGHT ROTATED TWO HUNDRED TWENTY-FIVE DEGREES
NEUTRAL CHESS KNIGHT ROTATED TWO HUNDRED TWENTY-FIVE DEGREES;WHITE CHESS KING ROTATED TWO HUNDRED SEVENTY DEGREES
2QUEEN ROTATED TWO HUNDRED SEVENTY DEGREES;2ROOK ROTATED TWO HUNDRED SEVENTY DEGREES
2BISHOP ROTATED TWO HUNDRED SEVENTY DEGREES;2KNIGHT ROTATED TWO HUNDRED SEVENTY DEGREES
2PAWN ROTATED TWO HUNDRED SEVENTY DEGREES;BLACK CHESS KING ROTATED TWO HUNDRED SEVENTY DEGREES
2QUEEN ROTATED TWO HUNDRED SEVENTY DEGREES;2ROOK ROTATED TWO HUNDRED SEVENTY DEGREES
2BISHOP ROTATED TWO HUNDRED SEVENTY DEGREES;2KNIGHT ROTATED TWO HUNDRED SEVENTY DEGREES
2PAWN ROTATED TWO HUNDRED SEVENTY DEGREES;NEUTRAL CHESS KING ROTATED TWO HUNDRED SEVENTY DEGREES
2QUEEN ROTATED TWO HUNDRED SEVENTY DEGREES;2ROOK ROTATED TWO HUNDRED SEVENTY DEGREES
2BISHOP ROTATED TWO HUNDRED SEVENTY DEGREES;2KNIGHT ROTATED TWO HUNDRED SEVENTY DEGREES
2PAWN ROTATED TWO HUNDRED SEVENTY DEGREES;WHITE CHESS KNIGHT ROTATED THREE HUNDRED FIFTEEN DEGREES
BLACK CHESS KNIGHT ROTATED THREE HUNDRED FIFTEEN DEGREES;NEUTRAL CHESS KNIGHT ROTATED THREE HUNDRED FIFTEEN DEGREES
WHITE CHESS EQUIHOPPER;BLACK CHESS EQUIHOPPER;NEUTRAL CHESS EQUIHOPPER;WHITE CHESS EQUIHOPPER ROTATED NINETY DEGREES
BLACK CHESS EQUIHOPPER ROTATED NINETY DEGREES;NEUTRAL CHESS EQUIHOPPER ROTATED NINETY DEGREES
WHITE CHESS KNIGHT-QUEEN;3-ROOK;3-BISHOP;BLACK CHESS KNIGHT-QUEEN;3-ROOK;3-BISHOP;1FA60:XIANGQI RED GENERAL
2MANDARIN;2ELEPHANT;2HORSE;2CHARIOT;2CANNON;2SOLDIER;1BLACK GENERAL;2MANDARIN;2ELEPHANT;2HORSE;2CHARIOT;2CANNON
2SOLDIER;1FA70:BALLET SHOES;ONE-PIECE SWIMSUIT;BRIEFS;SHORTS;THONG SANDAL;1FA78:DROP OF BLOOD;ADHESIVE BANDAGE
STETHOSCOPE;X-RAY;CRUTCH;1FA80:YO-YO;KITE;PARACHUTE;BOOMERANG;MAGIC WAND;PINATA;NESTING DOLLS;1FA90:RINGED PLANET
CHAIR;RAZOR;AXE;DIYA LAMP;BANJO;MILITARY HELMET;ACCORDION;LONG DRUM;COIN;CARPENTRY SAW;SCREWDRIVER;LADDER;HOOK
MIRROR;WINDOW;PLUNGER;SEWING NEEDLE;KNOT;BUCKET;MOUSE TRAP;TOOTHBRUSH;HEADSTONE;PLACARD;ROCK;MIRROR BALL
IDENTIFICATION CARD;LOW BATTERY;HAMSA;1FAB0:FLY;WORM;BEETLE;COCKROACH;POTTED PLANT;WOOD;FEATHER;LOTUS;CORAL
EMPTY NEST;NEST WITH EGGS;1FAC0:ANATOMICAL HEART;LUNGS;PEOPLE HUGGING;PREGNANT MAN;1PERSON;PERSON WITH CROWN
1FAD0:BLUEBERRIES;BELL PEPPER;OLIVE;FLATBREAD;TAMALE;FONDUE;TEAPOT;POURING LIQUID;BEANS;JAR;1FAE0:MELTING FACE
SALUTING FACE;FACE WITH OPEN EYES AND HAND OVER MOUTH;2PEEKING EYE;2DIAGONAL MOUTH;DOTTED LINE FACE;BITING LIP
BUBBLES;1FAF0:HAND WITH INDEX FINGER AND THUMB CROSSED;RIGHTWARDS HAND;LEFTWARDS HAND;PALM DOWN HAND;1UP HAND
INDEX POINTING AT THE VIEWER;HEART HANDS;1FB00:BLOCK SEXTANT-1;2-2;2-12;2-3;2-13;2-23;2-123;2-4;2-14;2-24;2-124;2-34
2-134;2-234;2-1234;2-5;2-15;2-25;2-125;2-35;2-235;2-1235;2-45;2-145;2-245;2-1245;2-345;2-1345;2-2345;2-12345;2-6
2-16;2-26;2-126;2-36;2-136;2-236;2-1236;2-46;2-146;2-1246;2-346;2-1346;2-2346;2-12346;2-56;2-156;2-256;2-1256;2-356
2-1356;2-2356;2-12356;2-456;2-1456;2-2456;2-12456;2-3456;2-13456;2-23456
LOWER LEFT BLOCK DIAGONAL LOWER MIDDLE LEFT TO LOWER CENTRE;9RIGHT;4UPPER MIDDLE LEFT TO LOWER CENTRE;9RIGHT
5LEFT TO LOWER CENTRE;1RIGHT BLOCK DIAGONAL UPPER MIDDLE LEFT TO UPPER CENTRE;9RIGHT
4LOWER MIDDLE LEFT TO UPPER CENTRE;9RIGHT;5LEFT TO UPPER CENTRE;5MIDDLE LEFT TO UPPER MIDDLE RIGHT
5CENTRE TO LOWER MIDDLE RIGHT;5LEFT TO LOWER MIDDLE RIGHT;5CENTRE TO UPPER MIDDLE RIGHT;5LEFT TO UPPER MIDDLE RIGHT
5CENTRE TO UPPER RIGHT;1LEFT BLOCK DIAGONAL UPPER CENTRE TO UPPER MIDDLE RIGHT;5LEFT TO UPPER MIDDLE RIGHT
5CENTRE TO LOWER MIDDLE RIGHT;5LEFT TO LOWER MIDDLE RIGHT;5CENTRE TO LOWER RIGHT;5MIDDLE LEFT TO LOWER MIDDLE RIGHT
UPPER RIGHT BLOCK DIAGONAL LOWER MIDDLE LEFT TO LOWER CENTRE;9RIGHT;4UPPER MIDDLE LEFT TO LOWER CENTRE;9RIGHT
5LEFT TO LOWER CENTRE;1LEFT BLOCK DIAGONAL UPPER MIDDLE LEFT TO UPPER CENTRE;9RIGHT
4LOWER MIDDLE LEFT TO UPPER CENTRE;9RIGHT;5LEFT TO UPPER CENTRE;5MIDDLE LEFT TO UPPER MIDDLE RIGHT
5CENTRE TO LOWER MIDDLE RIGHT;5LEFT TO LOWER MIDDLE RIGHT;5CENTRE TO UPPER MIDDLE RIGHT;5LEFT TO UPPER MIDDLE RIGHT
5CENTRE TO UPPER RIGHT;1RIGHT BLOCK DIAGONAL UPPER CENTRE TO UPPER MIDDLE RIGHT;5LEFT TO UPPER MIDDLE RIGHT
5CENTRE TO LOWER MIDDLE RIGHT;5LEFT TO LOWER MIDDLE RIGHT;5CENTRE TO LOWER RIGHT;5MIDDLE LEFT TO LOWER MIDDLE RIGHT
1AND RIGHT AND LOWER TRIANGULAR THREE QUARTERS BLOCK;LEFT AND LOWER AND RIGHT TRIANGULAR THREE QUARTERS BLOCK
UPPER AND LEFT AND LOWER TRIANGULAR THREE QUARTERS BLOCK;LEFT AND UPPER AND RIGHT TRIANGULAR THREE QUARTERS BLOCK
1TRIANGULAR ONE QUARTER BLOCK;UPPER TRIANGULAR ONE QUARTER BLOCK;RIGHT TRIANGULAR ONE QUARTER BLOCK
LOWER TRIANGULAR ONE QUARTER BLOCK;VERTICAL ONE EIGHTH BLOCK-2;4-3;4-4;4-5;4-6;4-7;HORIZONTAL ONE EIGHTH BLOCK-2;4-3
4-4;4-5;4-6;4-7;LEFT AND LOWER ONE EIGHTH BLOCK;2UPPER ONE EIGHTH BLOCK;RIGHT AND UPPER ONE EIGHTH BLOCK
2LOWER ONE EIGHTH BLOCK;UPPER AND LOWER ONE EIGHTH BLOCK;HORIZONTAL ONE EIGHTH BLOCK-1358;UPPER ONE QUARTER BLOCK
1THREE EIGHTHS BLOCK;1FIVE EIGHTHS BLOCK;1THREE QUARTERS BLOCK;1SEVEN EIGHTHS BLOCK;RIGHT ONE QUARTER BLOCK
1THREE EIGHTHS BLOCK;1FIVE EIGHTHS BLOCK;1THREE QUARTERS BLOCK;1SEVEN EIGHTHS BLOCK;LEFT HALF MEDIUM SHADE
RIGHT HALF MEDIUM SHADE;UPPER HALF MEDIUM SHADE;LOWER HALF MEDIUM SHADE;INVERSE MEDIUM SHADE
UPPER HALF BLOCK AND LOWER HALF INVERSE MEDIUM SHADE;2INVERSE MEDIUM SHADE AND LOWER HALF BLOCK
1FB94:LEFT HALF INVERSE MEDIUM SHADE AND RIGHT HALF BLOCK;CHECKER BOARD FILL;INVERSE CHECKER BOARD FILL
HEAVY HORIZONTAL FILL;UPPER LEFT TO LOWER RIGHT FILL;1RIGHT TO LOWER LEFT FILL;1AND LOWER TRIANGULAR HALF BLOCK
LEFT AND RIGHT TRIANGULAR HALF BLOCK;UPPER LEFT TRIANGULAR MEDIUM SHADE;1RIGHT TRIANGULAR MEDIUM SHADE
LOWER RIGHT TRIANGULAR MEDIUM SHADE;1LEFT TRIANGULAR MEDIUM SHADE
BOX DRAWINGS LIGHT DIAGONAL UPPER CENTRE TO MIDDLE LEFT;8RIGHT;4MIDDLE LEFT TO LOWER CENTRE;5RIGHT TO LOWER CENTRE
4UPPER CENTRE TO MIDDLE LEFT TO LOWER CENTRE;8RIGHT TO LOWER CENTRE;4MIDDLE LEFT TO LOWER CENTRE TO MIDDLE RIGHT
7UPPER CENTRE TO MIDDLE RIGHT;4UPPER CENTRE TO MIDDLE LEFT AND MIDDLE RIGHT TO LOWER CENTRE
8RIGHT AND MIDDLE LEFT TO LOWER CENTRE;9TO LOWER CENTRE TO MIDDLE LEFT;8LEFT TO LOWER CENTRE TO MIDDLE RIGHT
4MIDDLE LEFT TO UPPER CENTRE TO MIDDLE RIGHT TO LOWER CENTRE;5RIGHT TO UPPER CENTRE TO MIDDLE LEFT TO LOWER CENTRE
4DIAMOND;3HORIZONTAL WITH VERTICAL STROKE;ARROWHEAD-SHAPED POINTER;INVERSE CHECK MARK;LEFT HALF RUNNING MAN
RIGHT HALF RUNNING MAN;INVERSE DOWNWARDS ARROW WITH TIP LEFTWARDS
LEFTWARDS ARROW AND UPPER AND LOWER ONE EIGHTH BLOCK;RIGHTWARDS ARROW AND UPPER AND LOWER ONE EIGHTH BLOCK
DOWNWARDS ARROW AND RIGHT ONE EIGHTH BLOCK;UPWARDS ARROW AND RIGHT ONE EIGHTH BLOCK;LEFT HALF FOLDER
RIGHT HALF FOLDER;VOIDED GREEK CROSS;RIGHT OPEN SQUARED DOT;NEGATIVE DIAGONAL CROSS;2MIDDLE RIGHT TO LOWER CENTRE
2DIAMOND;WHITE HEAVY SALTIRE WITH ROUNDED CORNERS;LEFT THIRD WHITE RIGHT POINTING INDEX
MIDDLE THIRD WHITE RIGHT POINTING INDEX;RIGHT THIRD WHITE RIGHT POINTING INDEX;NEGATIVE SQUARED QUESTION MARK
STICK FIGURE;2WITH ARMS RAISED;2LEANING LEFT;3RIGHT;2WITH DRESS;WHITE UP-POINTING CHEVRON;1FBF0:SEGMENTED DIGIT ZERO
2ONE;2TWO;2THREE;2FOUR;2FIVE;2SIX;2SEVEN;2EIGHT;2NINE;2F800:CJK COMPATIBILITY IDEOGRAPH-*;3-*;3-*;3-*;3-*;3-*;3-*
3-*;3-*;3-*;3-*;3-*;3-*;3-*;3-*;3-*;3-*;3-*;3-*;3-*;3-*;3-*;3-*;3-*;3-*;3-*;3-*;3-*;3-*;3-*;3-*;3-*;3-*;3-*;3-*;3-*
3-*;3-*;3-*;3-*;3-*;3-*;3-*;3-*;3-*;3-*;3-*;3-*;3-*;3-*;3-*;3-*;3-*;3-*;3-*;3-*;3-*;3-*;3-*;3-*;3-*;3-*;3-*;3-*;3-*
3-*;3-*;3-*;3-*;3-*;3-*;3-*;3-*;3-*;3-*;3-*;3-*;3-*;3-*;3-*;3-*;3-*;3-*;3-*;3-*;3-*;3-*;3-*;3-*;3-*;3-*;3-*;3-*;3-*
3-*;3-*;3-*;3-*;3-*;3-*;3-*;3-*;3-*;3-*;3-*;3-*;3-*;3-*;3-*;3-*;3-*;3-*;3-*;3-*;3-*;3-*;3-*;3-*;3-*;3-*;3-*;3-*;3-*
3-*;3-*;3-*;3-*;3-*;3-*;3-*;3-*;3-*;3-*;3-*;3-*;3-*;3-*;3-*;3-*;3-*;3-*;3-*;3-*;3-*;3-*;3-*;3-*;3-*;3-*;3-*;3-*;3-*
3-*;3-*;3-*;3-*;3-*;3-*;3-*;3-*;3-*;3-*;3-*;3-*;3-*;3-*;3-*;3-*;3-*;3-*;3-*;3-*;3-*;3-*;3-*;3-*;3-*;3-*;3-*;3-*;3-*
3-*;3-*;3-*;3-*;3-*;3-*;3-*;3-*;3-*;3-*;3-*;3-*;3-*;3-*;3-*;3-*;3-*;3-*;3-*;3-*;3-*;3-*;3-*;3-*;3-*;3-*;3-*;3-*;3-*
3-*;3-*;3-*;3-*;3-*;3-*;3-*;3-*;3-*;3-*;3-*;3-*;3-*;3-*;3-*;3-*;3-*;3-*;3-*;3-*;3-*;3-*;3-*;3-*;3-*;3-*;3-*;3-*;3-*
3-*;3-*;3-*;3-*;3-*;3-*;3-*;3-*;3-*;3-*;3-*;3-*;3-*;3-*;3-*;3-*;3-*;3-*;3-*;3-*;3-*;3-*;3-*;3-*;3-*;3-*;3-*;3-*;3-*
3-*;3-*;3-*;3-*;3-*;3-*;3-*;3-*;3-*;3-*;3-*;3-*;3-*;3-*;3-*;3-*;3-*;3-*;3-*;3-*;3-*;3-*;3-*;3-*;3-*;3-*;3-*;3-*;3-*
3-*;3-*;3-*;3-*;3-*;3-*;3-*;3-*;3-*;3-*;3-*;3-*;3-*;3-*;3-*;3-*;3-*;3-*;3-*;3-*;3-*;3-*;3-*;3-*;3-*;3-*;3-*;3-*;3-*
3-*;3-*;3-*;3-*;3-*;3-*;3-*;3-*;3-*;3-*;3-*;3-*;3-*;3-*;3-*;3-*;3-*;3-*;3-*;3-*;3-*;3-*;3-*;3-*;3-*;3-*;3-*;3-*;3-*
3-*;3-*;3-*;3-*;3-*;3-*;3-*;3-*;3-*;3-*;3-*;3-*;3-*;3-*;3-*;3-*;3-*;3-*;3-*;3-*;3-*;3-*;3-*;3-*;3-*;3-*;3-*;3-*;3-*
3-*;3-*;3-*;3-*;3-*;3-*;3-*;3-*;3-*;3-*;3-*;3-*;3-*;3-*;3-*;3-*;3-*;3-*;3-*;3-*;3-*;3-*;3-*;3-*;3-*;3-*;3-*;3-*;3-*
3-*;3-*;3-*;3-*;3-*;3-*;3-*;3-*;3-*;3-*;3-*;3-*;3-*;3-*;3-*;3-*;3-*;3-*;3-*;3-*;3-*;3-*;3-*;3-*;3-*;3-*;3-*;3-*;3-*
3-*;3-*;3-*;3-*;3-*;3-*;3-*;3-*;3-*;3-*;3-*;3-*;3-*;3-*;3-*;3-*;3-*;3-*;3-*;3-*;3-*;3-*;3-*;3-*;3-*;3-*;3-*;3-*;3-*
3-*;3-*;3-*;3-*;3-*;3-*;3-*;3-*;3-*;3-*;3-*;3-*;3-*;3-*;3-*;3-*;3-*;3-*;3-*;3-*;3-*;3-*;3-*;3-*;3-*;3-*;3-*;3-*;3-*
3-*;3-*;3-*;3-*;3-*;3-*;3-*;3-*;3-*;3-*;3-*;3-*;3-*;3-*;3-*;3-*;3-*;3-*;3-*;3-*;3-*;3-*;3-*;3-*;3-*;3-*;3-*;3-*;3-*
3-*;3-*;3-*;3-*;3-*;3-*;3-*;3-*;3-*;3-*;3-*;3-*;3-*;E0001:LANGUAGE TAG;E0020:TAG SPACE;1EXCLAMATION MARK
1QUOTATION MARK;1NUMBER SIGN;1DOLLAR SIGN;1PERCENT SIGN;1AMPERSAND;1APOSTROPHE;1LEFT PARENTHESIS;1RIGHT PARENTHESIS
1ASTERISK;1PLUS SIGN;1COMMA;1HYPHEN-MINUS;1FULL STOP;1SOLIDUS;1DIGIT ZERO;2ONE;2TWO;2THREE;2FOUR;2FIVE;2SIX;2SEVEN
2EIGHT;2NINE;1COLON;1SEMICOLON;1LESS-THAN SIGN;1EQUALS SIGN;1GREATER-THAN SIGN;1QUESTION MARK;1COMMERCIAL AT
1LATIN CAPITAL LETTER A;4B;4C;4D;4E;4F;4G;4H;4I;4J;4K;4L;4M;4N;4O;4P;4Q;4R;4S;4T;4U;4V;4W;4X;4Y;4Z
1LEFT SQUARE BRACKET;1REVERSE SOLIDUS;1RIGHT SQUARE BRACKET;1CIRCUMFLEX ACCENT;1LOW LINE;1GRAVE ACCENT
1LATIN SMALL LETTER A;4B;4C;4D;4E;4F;4G;4H;4I;4J;4K;4L;4M;4N;4O;4P;4Q;4R;4S;4T;4U;4V;4W;4X;4Y;4Z;1LEFT CURLY BRACKET
1VERTICAL LINE;1RIGHT CURLY BRACKET;1TILDE;CANCEL TAG;E0100:VARIATION SELECTOR-17;2-18;2-19;2-20;2-21;2-22;2-23;2-24
2-25;2-26;2-27;2-28;2-29;2-30;2-31;2-32;2-33;2-34;2-35;2-36;2-37;2-38;2-39;2-40;2-41;2-42;2-43;2-44;2-45;2-46;2-47
2-48;2-49;2-50;2-51;2-52;2-53;2-54;2-55;2-56;2-57;2-58;2-59;2-60;2-61;2-62;2-63;2-64;2-65;2-66;2-67;2-68;2-69;2-70
2-71;2-72;2-73;2-74;2-75;2-76;2-77;2-78;2-79;2-80;2-81;2-82;2-83;2-84;2-85;2-86;2-87;2-88;2-89;2-90;2-91;2-92;2-93
2-94;2-95;2-96;2-97;2-98;2-99;2-100;2-101;2-102;2-103;2-104;2-105;2-106;2-107;2-108;2-109;2-110;2-111;2-112;2-113
2-114;2-115;2-116;2-117;2-118;2-119;2-120;2-121;2-122;2-123;2-124;2-125;2-126;2-127;2-128;2-129;2-130;2-131;2-132
2-133;2-134;2-135;2-136;2-137;2-138;2-139;2-140;2-141;2-142;2-143;2-144;2-145;2-146;2-147;2-148;2-149;2-150;2-151
2-152;2-153;2-154;2-155;2-156;2-157;2-158;2-159;2-160;2-161;2-162;2-163;2-164;2-165;2-166;2-167;2-168;2-169;2-170
2-171;2-172;2-173;2-174;2-175;2-176;2-177;2-178;2-179;2-180;2-181;2-182;2-183;2-184;2-185;2-186;2-187;2-188;2-189
2-190;2-191;2-192;2-193;2-194;2-195;2-196;2-197;2-198;2-199;2-200;2-201;2-202;2-203;2-204;2-205;2-206;2-207;2-208
2-209;2-210;2-211;2-212;2-213;2-214;2-215;2-216;2-217;2-218;2-219;2-220;2-221;2-222;2-223;2-224;2-225;2-226;2-227
2-228;2-229;2-230;2-231;2-232;2-233;2-234;2-235;2-236;2-237;2-238;2-239;2-240;2-241;2-242;2-243;2-244;2-245;2-246
2-247;2-248;2-249;2-250;2-251;2-252;2-253;2-254;2-255;2-256"

end RiskGauge.Text.CharName
