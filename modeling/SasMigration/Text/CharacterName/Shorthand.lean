namespace SasMigration.CharacterName

def shorthand : String := "
16800,BAMUM LETTER PHASE-A ,NGKUE MFON,GBIEE FON,PON MFON PIPAEMGBIEE,PON MFON PIPAEMBA,NAA MFON,
SHUENSHUET,TITA MFON,NZA MFON,SHINDA PA NJI,PON PA NJI PIPAEMGBIEE,PON PA NJI PIPAEMBA,
MAEMBGBIEE,TU MAEMBA,NGANGU,MAEMVEUX,MANSUAE,MVEUAENGAM,SEUNYAM,NTOQPEN,KEUKEUTNDA,NKINDI,SUU,
NGKUENZEUM,LAPAQ,LET KUT,NTAP MFAA,MAEKEUP,PASHAE,GHEUAERAE,PAMSHAE,MON NGGEUAET,NZUN MEUT,
U YUQ NAE,GHEUAEGHEUAE,NTAP NTAA,SISA,MGBASA,MEUNJOMNDEUQ,MOOMPUQ,KAFA,PA LEERAEWA,NDA LEERAEWA,
PET,MAEMKPEN,NIKA,PUP,TUAEP,LUAEP,SONJAM,TEUTEUWEN,MAENYI,KET,NDAANGGEUAET,KUOQ,MOOMEUT,SHUM,
LOMMAE,FIRI,ROM,KPOQ,SOQ,MAP PIEET,SHIRAE,NTAP,SHOQ NSHUT YUM,NYIT MONGKEUAEQ,PAARAE,NKAARAE,
UNKNOWN,NGGEN,MAESI,NJAM,MBANYI,NYET,TEUAEN,SOT,PAAM,NSHIEE,MAEM,NYI,KAQ,NSHA,VEE,LU,NEN,NAQ,
MBAQ;
16857,BAMUM LETTER PHASE-B ,NSHUET,TU MAEMGBIEE,SIEE,SET TU,LOM NTEUM,MBA MAELEE,KIEEM,YEURAE,
MBAARAE,KAM,PEESHI,YAFU LEERAEWA,LAM NSHUT NYAM,NTIEE SHEUOQ,NDU NJAA,GHEUGHEUAEM,PIT,TU NSIEE,
SHET NJAQ,SHEUAEQTU,MFON TEUAEQ,MBIT MBAAKET,NYI NTEUM,KEUPUQ,GHEUGHEN,KEUYEUX,LAANAE,PARUM,VEUM,
NGKINDI MVOP,NGGEU MBU,WUAET,SAKEUAE,TAAM,MEUQ,NGGUOQ,NGGUOQ LARGE,MFIYAQ,SUE,MBEURI,MONTIEEN,
NYAEMAE,PUNGAAM,MEUT NGGEET,FEUX,MBUOQ,FEE,KEUAEM,MA NJEUAENA,MA NJUQA,LET,NGGAAM,NSEN,MA,KIQ,
NGOM;
1688F,BAMUM LETTER PHASE-C ,NGKUE MAEMBA,NZA,YUM,WANGKUOQ,NGGEN,NDEUAEREE,NGKAQ,GHARAE,MBEEKEET,
GBAYI,NYIR MKPARAQ MEUN,NTU MBIT,MBEUM,PIRIEEN,NDOMBU,MBAA CABBAGE-TREE,KEUSHEUAEP,GHAP,KEUKAQ,
YU MUOMAE,NZEUM,MBUE,NSEUAEN,MBIT,YEUQ,KPARAQ,KAA,SEUX,NDIDA,TAASHAE,NJUEQ,TITA YUE,SUAET,
NGGUAEN NYAM,VEUX,NANSANAQ,MA KEUAERI,NTAA,NGGUON,LAP,MBIRIEEN,MGBASAQ,NTEUNGBA,TEUTEUX,NGGUM,
FUE,NDEUT,NSA,NSHAQ,BUNG,VEUAEPEN,MBERAE,RU,NJAEM,LAM,TITUAEP,NSUOT NGOM,NJEEEE,KET,NGGU,MAESI,
MBUAEM,LU,KUT,NJAM,NGOM,WUP,NGGUEET,NSOM,NTEN,KUOP NKAARAE,NSUN,NDAM,MA NSIEE,YAA,NDAP,SHUEQ,
SETFON,MBI,MAEMBA,MBANYI,KEUSEUX,MBEUX,KEUM,MBAA PICKET,YUWOQ,NJEUX,MIEE,MUAE,SHIQ,KEN LAW,
KEN FATIGUE,NGAQ,NAQ,LIQ,PIN,PEN,TET;
168F1,BAMUM LETTER PHASE-D ,MBUO,WAP,NJI,MFON,NJIEE,LIEE,NJEUT,NSHEE,NGGAAMAE,NYAM,WUAEN,NGKUN,
SHEE,NGKAP,KEUAETMEUN,TEUT,SHEUAE,NJAP,SUE,KET,YAEMMAE,KUOM,SAP,MFEUT,NDEUX,MALEERI,MEUT,SEUAEQ,
YEN,NJEUAEM,KEUOT MBUAE,NGKEURI,TU,GHAA,NGKYEE,FEUFEUAET,NDEE,MGBOFUM,LEUAEP,NDON,MONI,MGBEUN,
PUUT,MGBIEE,MFO,LUM,NSIEEP,MBAA,KWAET,NYET,TEUAEN,SOT,YUWOQ,KEUM,RAEM,TEEEE,NGKEUAEQ,MFEUAE,
NSIEET,KEUP,PIP,PEUTAE,NYUE,LET,NGGAAM,MFIEE,NGGWAEN,YUOM,PAP,YUOP,NDAM,NTEUM,SUAE,KUN,NGGEUX,
NGKIEE,TUOT,MEUN,KUQ,NSUM,TEUN,MAENJET,NGGAP,LEUM,NGGUOM,NSHUT,NJUEQ,GHEUAE,KU,REN OLD,TAE,TOQ,
NYI,RII,LEEEE,MEEEE,M,SUU,MU,SHII,SHEUX,KYEE,NU,SHU,NTEE,PEE,NI,SHOQ,PUQ,MVOP,LOQ,REN MUCH,TI,
NTUU,MBAA SEVEN,SAQ,FAA;
16966,BAMUM LETTER PHASE-E ,NDAP,TOON,MBEUM,LAP,VOM,LOON,PAA,SOM,RAQ,NSHUOP,NDUN,PUAE,TAM,NGKA,
KPEUX,WUO,SEE,NGGEUAET,PAAM,TOO,KUOP,LOM,NSHIEE,NGOP,MAEM,NGKEUX,NGOQ,NSHUE,RIMGBA,NJEUX,PEEM,
SAA,NGGURAE,MGBA,GHEUX,NGKEUAEM,NJAEMLI,MAP,LOOT,NGGEEEE,NDIQ,TAEN NTEUM,SET,PUM,NDAA SOFTNESS,
NGGUAESHAE NYAM,YIEE,GHEUN,TUAE,YEUAE,PO,TUMAE,KEUAE,SUAEN,TEUAEQ,VEUAE,WEUX,LAAM,PU,TAAQ,
GHAAMAE,NGEUREUT,SHEUAEQ,MGBEN,MBEE,NZAQ,NKOM,GBET,TUM,KUET,YAP,NYI CLEAVER,YIT,MFEUQ,NDIAQ,
PIEEQ,YUEQ,LEUAEM,FUE,GBEUX,NGKUP,KET,MAE,NGKAAMI,GHET,FA,NTUM,PEUT,YEUM,NGGEUAE,NYI BETWEEN,
NZUQ,POON,MIEE,FUET,NAE,MUAE,GHEUAE,FU I,MVI,PUAQ,NGKUM,KUT,PIET,NTAP,YEUAET,NGGUP,PA PEOPLE,
FU CALL,FOM,NJEE,A,TOQ,O,I,LAQ,PA PLURAL,TAA,TAQ,NDAA MY HOUSE,SHIQ,YEUX,NGUAE,YUAEN,
YOQ SWIMMING,YOQ COVER,YUQ,YUN,KEUX,PEUX,NJEE EPOCH,PUE,WUE,FEE,VEE,LU,MI,REUX,RAE,NGUAET,NGA,
SHO,SHOQ,FU REMEDY,NA,PI,LOQ,KO,MEN,MA,MAQ,TEU,KI,MON,TEN,FAQ,GHOM;
16A03,BAMUM LETTER PHASE-F ,KA,U,KU,EE,REE,TAE,NYI,LA,RII,RIEE,MEEEE,TAA,NDAA,NJAEM,M,SUU,SHII,
SI,SEUX,KYEE,KET,NUAE,NU,NJUAE,YOQ,SHU,YA,NSHA,PEUX,NTEE,WUE,PEE,RU,NI,REUX,KEN,NGKWAEN,NGGA,SHO,
PUAE,FOM,WA,LI,LOQ,KO,MBEN,REN,MA,MO,MBAA,TET,KPA,SAMBA,VUEQ;
16A40,MRO LETTER ,TA,NGI,YO,MIM,BA,DA,A,PHI,KHAI,HAO,DAI,CHU,KEAAE,OL,MAEM,NIN,PA,OO,O,RO,SHI,
THEA,EA,WA,E,KO,LAN,LA,HAI,RI,TEK;
16A60,MRO DIGIT ,ZERO,ONE,TWO,THREE,FOUR,FIVE,SIX,SEVEN,EIGHT,NINE;
16A6E,MRO ,DANDA,DOUBLE DANDA;
16A70,TANGSA LETTER ,OZ,OC,OQ,OX,AZ,AC,AQ,AX,VZ,VC,VQ,VX,EZ,EC,EQ,EX,IZ,IC,IQ,IX,UZ,UC,UQ,UX,AWZ,
AWC,AWQ,AWX,UIZ,UIC,UIQ,UIX,FINAL NG,LONG UEX,SHORT UEZ,SHORT AWX,UEC,UEZ,UEQ,UEX,UIUZ,UIUC,UIUQ,
UIUX,MZ,MC,MQ,MX,KA,KHA,GA,NGA,SA,YA,WA,PA,NYA,PHA,BA,MA,NA,HA,LA,HTA,TA,DA,RA,NHA,SHA,CA,TSA,
GHA,HTTA,THA,XA,FA,DHA,CHA,ZA;
16AC0,TANGSA DIGIT ,ZERO,ONE,TWO,THREE,FOUR,FIVE,SIX,SEVEN,EIGHT,NINE;
16AD0,BASSA VAH LETTER ,ENNI,KA,SE,FA,MBE,YIE,GAH,DHII,KPAH,JO,HWAH,WA,ZO,GBU,DO,CE,UWU,TO,BA,VU,
YEIN,PA,WADDA,A,O,OO,U,EE,E,I;
16AF0,BASSA VAH COMBINING ,HIGH TONE,LOW TONE,MID TONE,LOW-MID TONE,HIGH-LOW TONE;
16AF5,,BASSA VAH FULL STOP;
16B00,PAHAWH HMONG VOWEL ,KEEB,KEEV,KIB,KIV,KAUB,KAUV,KUB,KUV,KEB,KEV,KAIB,KAIV,KOOB,KOOV,KAWB,
KAWV,KUAB,KUAV,KOB,KOV,KIAB,KIAV,KAB,KAV,KWB,KWV,KAAB,KAAV;
16B1C,PAHAWH HMONG CONSONANT ,VAU,NTSAU,LAU,HAU,NLAU,RAU,NKAU,QHAU,YAU,HLAU,MAU,CHAU,NCHAU,HNAU,
PLHAU,NTHAU,NAU,AU,XAU,CAU;
16B30,PAHAWH HMONG MARK CIM ,TUB,SO,KES,KHAV,SUAM,HOM,TAUM;
16B37,PAHAWH HMONG SIGN ,VOS THOM,VOS TSHAB CEEB,CIM CHEEM,VOS THIAB,VOS FEEM,XYEEM NTXIV,
XYEEM RHO,XYEEM TOV,XYEEM FAIB,VOS SEEV,MEEJ SUAB,VOS NRUA,IB YAM,XAUS,CIM TSOV ROG;
16B50,PAHAWH HMONG DIGIT ,ZERO,ONE,TWO,THREE,FOUR,FIVE,SIX,SEVEN,EIGHT,NINE;
16B5B,PAHAWH HMONG NUMBER ,TENS,HUNDREDS,TEN THOUSANDS,MILLIONS,HUNDRED MILLIONS,TEN BILLIONS,
TRILLIONS;
16B63,PAHAWH HMONG SIGN ,VOS LUB,XYOO,HLI,THIRD-STAGE HLI,ZWJ THAJ,HNUB,NQIG,XIAB,NTUJ,AV,
TXHEEJ CEEV,MEEJ TSEEB,TAU,LOS,MUS,CIM HAIS LUS NTOG NTOG,CIM CUAM TSHOOJ,CIM TXWV,CIM TXWV CHWV,
CIM PUB DAWB,CIM NRES TOS;
16B7D,PAHAWH HMONG CLAN SIGN ,TSHEEJ,YEEG,LIS,LAUJ,XYOOJ,KOO,HAWJ,MUAS,THOJ,TSAB,PHAB,KHAB,HAM,
VAJ,FAJ,YAJ,TSWB,KWM,VWJ;
16E40,MEDEFAIDRIN CAPITAL LETTER ,M,S,V,W,ATIU,Z,KP,P,T,G,F,I,K,A,J,E,B,C,U,YU,L,Q,HP,NY,X,D,OE,
N,R,O,AI,Y;
16E60,MEDEFAIDRIN SMALL LETTER ,M,S,V,W,ATIU,Z,KP,P,T,G,F,I,K,A,J,E,B,C,U,YU,L,Q,HP,NY,X,D,OE,N,
R,O,AI,Y;
16E80,MEDEFAIDRIN DIGIT ,ZERO,ONE,TWO,THREE,FOUR,FIVE,SIX,SEVEN,EIGHT,NINE;
16E8A,MEDEFAIDRIN NUMBER ,TEN,ELEVEN,TWELVE,THIRTEEN,FOURTEEN,FIFTEEN,SIXTEEN,SEVENTEEN,EIGHTEEN,
NINETEEN;
16E94,MEDEFAIDRIN ,DIGIT ONE ALTERNATE FORM,DIGIT TWO ALTERNATE FORM,DIGIT THREE ALTERNATE FORM,
COMMA,FULL STOP,SYMBOL AIVA,EXCLAMATION OH;
16F00,MIAO LETTER ,PA,BA,YI PA,PLA,MA,MHA,ARCHAIC MA,FA,VA,VFA,TA,DA,YI TTA,YI TA,TTA,DDA,NA,NHA,
YI NNA,ARCHAIC NA,NNA,NNHA,LA,LYA,LHA,LHYA,TLHA,DLHA,TLHYA,DLHYA,KA,GA,YI KA,QA,QGA,NGA,NGHA,
ARCHAIC NGA,HA,XA,GHA,GHHA,TSSA,DZZA,NYA,NYHA,TSHA,DZHA,YI TSHA,YI DZHA,REFORMED TSHA,SHA,SSA,
ZHA,ZSHA,TSA,DZA,YI TSA,SA,ZA,ZSA,ZZA,ZZSA,ARCHAIC ZZA,ZZYA,ZZSYA,WA,AH,HHA,BRI,SYI,DZYI,TE,TSE,
RTE;
16F4F,MIAO ,SIGN CONSONANT MODIFIER BAR,LETTER NASALIZATION,SIGN ASPIRATION;
16F52,MIAO SIGN REFORMED ,VOICING,ASPIRATION;
16F54,MIAO VOWEL SIGN ,A,AA,AHH,AN,ANG,O,OO,WO,W,E,EN,ENG,OEY,I,IA,IAN,IANG,IO,IE,II,IU,ING,U,UA,
UAN,UANG,UU,UEI,UNG,Y,YI,AE,AEE,ERR,ROUNDED ERR,ER,ROUNDED ER,AI,EI,AU,OU,N,NG,UOG,YUI,OG,OER,VW,
IG,EA,IONG,UI;
16F8F,MIAO TONE ,RIGHT,TOP RIGHT,ABOVE,BELOW;
16F93,MIAO LETTER ,TONE-2,TONE-3,TONE-4,TONE-5,TONE-6,TONE-7,TONE-8;
16F9A,MIAO LETTER REFORMED ,TONE-1,TONE-2,TONE-4,TONE-5,TONE-6,TONE-8;
16FE0,,TANGUT ITERATION MARK,NUSHU ITERATION MARK,OLD CHINESE HOOK MARK,
OLD CHINESE ITERATION MARK,KHITAN SMALL SCRIPT FILLER;
16FF0,VIETNAMESE ALTERNATE READING MARK ,CA,NHAY;
18800,TANGUT ,COMPONENT-001,COMPONENT-002,COMPONENT-003,COMPONENT-004,COMPONENT-005,
COMPONENT-006,COMPONENT-007,COMPONENT-008,COMPONENT-009,COMPONENT-010,COMPONENT-011,
COMPONENT-012,COMPONENT-013,COMPONENT-014,COMPONENT-015,COMPONENT-016,COMPONENT-017,
COMPONENT-018,COMPONENT-019,COMPONENT-020,COMPONENT-021,COMPONENT-022,COMPONENT-023,
COMPONENT-024,COMPONENT-025,COMPONENT-026,COMPONENT-027,COMPONENT-028,COMPONENT-029,
COMPONENT-030,COMPONENT-031,COMPONENT-032,COMPONENT-033,COMPONENT-034,COMPONENT-035,
COMPONENT-036,COMPONENT-037,COMPONENT-038,COMPONENT-039,COMPONENT-040,COMPONENT-041,
COMPONENT-042,COMPONENT-043,COMPONENT-044,COMPONENT-045,COMPONENT-046,COMPONENT-047,
COMPONENT-048,COMPONENT-049,COMPONENT-050,COMPONENT-051,COMPONENT-052,COMPONENT-053,
COMPONENT-054,COMPONENT-055,COMPONENT-056,COMPONENT-057,COMPONENT-058,COMPONENT-059,
COMPONENT-060,COMPONENT-061,COMPONENT-062,COMPONENT-063,COMPONENT-064,COMPONENT-065,
COMPONENT-066,COMPONENT-067,COMPONENT-068,COMPONENT-069,COMPONENT-070,COMPONENT-071,
COMPONENT-072,COMPONENT-073,COMPONENT-074,COMPONENT-075,COMPONENT-076,COMPONENT-077,
COMPONENT-078,COMPONENT-079,COMPONENT-080,COMPONENT-081,COMPONENT-082,COMPONENT-083,
COMPONENT-084,COMPONENT-085,COMPONENT-086,COMPONENT-087,COMPONENT-088,COMPONENT-089,
COMPONENT-090,COMPONENT-091,COMPONENT-092,COMPONENT-093,COMPONENT-094,COMPONENT-095,
COMPONENT-096,COMPONENT-097,COMPONENT-098,COMPONENT-099,COMPONENT-100,COMPONENT-101,
COMPONENT-102,COMPONENT-103,COMPONENT-104,COMPONENT-105,COMPONENT-106,COMPONENT-107,
COMPONENT-108,COMPONENT-109,COMPONENT-110,COMPONENT-111,COMPONENT-112,COMPONENT-113,
COMPONENT-114,COMPONENT-115,COMPONENT-116,COMPONENT-117,COMPONENT-118,COMPONENT-119,
COMPONENT-120,COMPONENT-121,COMPONENT-122,COMPONENT-123,COMPONENT-124,COMPONENT-125,
COMPONENT-126,COMPONENT-127,COMPONENT-128,COMPONENT-129,COMPONENT-130,COMPONENT-131,
COMPONENT-132,COMPONENT-133,COMPONENT-134,COMPONENT-135,COMPONENT-136,COMPONENT-137,
COMPONENT-138,COMPONENT-139,COMPONENT-140,COMPONENT-141,COMPONENT-142,COMPONENT-143,
COMPONENT-144,COMPONENT-145,COMPONENT-146,COMPONENT-147,COMPONENT-148,COMPONENT-149,
COMPONENT-150,COMPONENT-151,COMPONENT-152,COMPONENT-153,COMPONENT-154,COMPONENT-155,
COMPONENT-156,COMPONENT-157,COMPONENT-158,COMPONENT-159,COMPONENT-160,COMPONENT-161,
COMPONENT-162,COMPONENT-163,COMPONENT-164,COMPONENT-165,COMPONENT-166,COMPONENT-167,
COMPONENT-168,COMPONENT-169,COMPONENT-170,COMPONENT-171,COMPONENT-172,COMPONENT-173,
COMPONENT-174,COMPONENT-175,COMPONENT-176,COMPONENT-177,COMPONENT-178,COMPONENT-179,
COMPONENT-180,COMPONENT-181,COMPONENT-182,COMPONENT-183,COMPONENT-184,COMPONENT-185,
COMPONENT-186,COMPONENT-187,COMPONENT-188,COMPONENT-189,COMPONENT-190,COMPONENT-191,
COMPONENT-192,COMPONENT-193,COMPONENT-194,COMPONENT-195,COMPONENT-196,COMPONENT-197,
COMPONENT-198,COMPONENT-199,COMPONENT-200,COMPONENT-201,COMPONENT-202,COMPONENT-203,
COMPONENT-204,COMPONENT-205,COMPONENT-206,COMPONENT-207,COMPONENT-208,COMPONENT-209,
COMPONENT-210,COMPONENT-211,COMPONENT-212,COMPONENT-213,COMPONENT-214,COMPONENT-215,
COMPONENT-216,COMPONENT-217,COMPONENT-218,COMPONENT-219,COMPONENT-220,COMPONENT-221,
COMPONENT-222,COMPONENT-223,COMPONENT-224,COMPONENT-225,COMPONENT-226,COMPONENT-227,
COMPONENT-228,COMPONENT-229,COMPONENT-230,COMPONENT-231,COMPONENT-232,COMPONENT-233,
COMPONENT-234,COMPONENT-235,COMPONENT-236,COMPONENT-237,COMPONENT-238,COMPONENT-239,
COMPONENT-240,COMPONENT-241,COMPONENT-242,COMPONENT-243,COMPONENT-244,COMPONENT-245,
COMPONENT-246,COMPONENT-247,COMPONENT-248,COMPONENT-249,COMPONENT-250,COMPONENT-251,
COMPONENT-252,COMPONENT-253,COMPONENT-254,COMPONENT-255,COMPONENT-256,COMPONENT-257,
COMPONENT-258,COMPONENT-259,COMPONENT-260,COMPONENT-261,COMPONENT-262,COMPONENT-263,
COMPONENT-264,COMPONENT-265,COMPONENT-266,COMPONENT-267,COMPONENT-268,COMPONENT-269,
COMPONENT-270,COMPONENT-271,COMPONENT-272,COMPONENT-273,COMPONENT-274,COMPONENT-275,
COMPONENT-276,COMPONENT-277,COMPONENT-278,COMPONENT-279,COMPONENT-280,COMPONENT-281,
COMPONENT-282,COMPONENT-283,COMPONENT-284,COMPONENT-285,COMPONENT-286,COMPONENT-287,
COMPONENT-288,COMPONENT-289,COMPONENT-290,COMPONENT-291,COMPONENT-292,COMPONENT-293,
COMPONENT-294,COMPONENT-295,COMPONENT-296,COMPONENT-297,COMPONENT-298,COMPONENT-299,
COMPONENT-300,COMPONENT-301,COMPONENT-302,COMPONENT-303,COMPONENT-304,COMPONENT-305,
COMPONENT-306,COMPONENT-307,COMPONENT-308,COMPONENT-309,COMPONENT-310,COMPONENT-311,
COMPONENT-312,COMPONENT-313,COMPONENT-314,COMPONENT-315,COMPONENT-316,COMPONENT-317,
COMPONENT-318,COMPONENT-319,COMPONENT-320,COMPONENT-321,COMPONENT-322,COMPONENT-323,
COMPONENT-324,COMPONENT-325,COMPONENT-326,COMPONENT-327,COMPONENT-328,COMPONENT-329,
COMPONENT-330,COMPONENT-331,COMPONENT-332,COMPONENT-333,COMPONENT-334,COMPONENT-335,
COMPONENT-336,COMPONENT-337,COMPONENT-338,COMPONENT-339,COMPONENT-340,COMPONENT-341,
COMPONENT-342,COMPONENT-343,COMPONENT-344,COMPONENT-345,COMPONENT-346,COMPONENT-347,
COMPONENT-348,COMPONENT-349,COMPONENT-350,COMPONENT-351,COMPONENT-352,COMPONENT-353,
COMPONENT-354,COMPONENT-355,COMPONENT-356,COMPONENT-357,COMPONENT-358,COMPONENT-359,
COMPONENT-360,COMPONENT-361,COMPONENT-362,COMPONENT-363,COMPONENT-364,COMPONENT-365,
COMPONENT-366,COMPONENT-367,COMPONENT-368,COMPONENT-369,COMPONENT-370,COMPONENT-371,
COMPONENT-372,COMPONENT-373,COMPONENT-374,COMPONENT-375,COMPONENT-376,COMPONENT-377,
COMPONENT-378,COMPONENT-379,COMPONENT-380,COMPONENT-381,COMPONENT-382,COMPONENT-383,
COMPONENT-384,COMPONENT-385,COMPONENT-386,COMPONENT-387,COMPONENT-388,COMPONENT-389,
COMPONENT-390,COMPONENT-391,COMPONENT-392,COMPONENT-393,COMPONENT-394,COMPONENT-395,
COMPONENT-396,COMPONENT-397,COMPONENT-398,COMPONENT-399,COMPONENT-400,COMPONENT-401,
COMPONENT-402,COMPONENT-403,COMPONENT-404,COMPONENT-405,COMPONENT-406,COMPONENT-407,
COMPONENT-408,COMPONENT-409,COMPONENT-410,COMPONENT-411,COMPONENT-412,COMPONENT-413,
COMPONENT-414,COMPONENT-415,COMPONENT-416,COMPONENT-417,COMPONENT-418,COMPONENT-419,
COMPONENT-420,COMPONENT-421,COMPONENT-422,COMPONENT-423,COMPONENT-424,COMPONENT-425,
COMPONENT-426,COMPONENT-427,COMPONENT-428,COMPONENT-429,COMPONENT-430,COMPONENT-431,
COMPONENT-432,COMPONENT-433,COMPONENT-434,COMPONENT-435,COMPONENT-436,COMPONENT-437,
COMPONENT-438,COMPONENT-439,COMPONENT-440,COMPONENT-441,COMPONENT-442,COMPONENT-443,
COMPONENT-444,COMPONENT-445,COMPONENT-446,COMPONENT-447,COMPONENT-448,COMPONENT-449,
COMPONENT-450,COMPONENT-451,COMPONENT-452,COMPONENT-453,COMPONENT-454,COMPONENT-455,
COMPONENT-456,COMPONENT-457,COMPONENT-458,COMPONENT-459,COMPONENT-460,COMPONENT-461,
COMPONENT-462,COMPONENT-463,COMPONENT-464,COMPONENT-465,COMPONENT-466,COMPONENT-467,
COMPONENT-468,COMPONENT-469,COMPONENT-470,COMPONENT-471,COMPONENT-472,COMPONENT-473,
COMPONENT-474,COMPONENT-475,COMPONENT-476,COMPONENT-477,COMPONENT-478,COMPONENT-479,
COMPONENT-480,COMPONENT-481,COMPONENT-482,COMPONENT-483,COMPONENT-484,COMPONENT-485,
COMPONENT-486,COMPONENT-487,COMPONENT-488,COMPONENT-489,COMPONENT-490,COMPONENT-491,
COMPONENT-492,COMPONENT-493,COMPONENT-494,COMPONENT-495,COMPONENT-496,COMPONENT-497,
COMPONENT-498,COMPONENT-499,COMPONENT-500,COMPONENT-501,COMPONENT-502,COMPONENT-503,
COMPONENT-504,COMPONENT-505,COMPONENT-506,COMPONENT-507,COMPONENT-508,COMPONENT-509,
COMPONENT-510,COMPONENT-511,COMPONENT-512,COMPONENT-513,COMPONENT-514,COMPONENT-515,
COMPONENT-516,COMPONENT-517,COMPONENT-518,COMPONENT-519,COMPONENT-520,COMPONENT-521,
COMPONENT-522,COMPONENT-523,COMPONENT-524,COMPONENT-525,COMPONENT-526,COMPONENT-527,
COMPONENT-528,COMPONENT-529,COMPONENT-530,COMPONENT-531,COMPONENT-532,COMPONENT-533,
COMPONENT-534,COMPONENT-535,COMPONENT-536,COMPONENT-537,COMPONENT-538,COMPONENT-539,
COMPONENT-540,COMPONENT-541,COMPONENT-542,COMPONENT-543,COMPONENT-544,COMPONENT-545,
COMPONENT-546,COMPONENT-547,COMPONENT-548,COMPONENT-549,COMPONENT-550,COMPONENT-551,
COMPONENT-552,COMPONENT-553,COMPONENT-554,COMPONENT-555,COMPONENT-556,COMPONENT-557,
COMPONENT-558,COMPONENT-559,COMPONENT-560,COMPONENT-561,COMPONENT-562,COMPONENT-563,
COMPONENT-564,COMPONENT-565,COMPONENT-566,COMPONENT-567,COMPONENT-568,COMPONENT-569,
COMPONENT-570,COMPONENT-571,COMPONENT-572,COMPONENT-573,COMPONENT-574,COMPONENT-575,
COMPONENT-576,COMPONENT-577,COMPONENT-578,COMPONENT-579,COMPONENT-580,COMPONENT-581,
COMPONENT-582,COMPONENT-583,COMPONENT-584,COMPONENT-585,COMPONENT-586,COMPONENT-587,
COMPONENT-588,COMPONENT-589,COMPONENT-590,COMPONENT-591,COMPONENT-592,COMPONENT-593,
COMPONENT-594,COMPONENT-595,COMPONENT-596,COMPONENT-597,COMPONENT-598,COMPONENT-599;
18A57,TANGUT ,COMPONENT-600,COMPONENT-601,COMPONENT-602,COMPONENT-603,COMPONENT-604,
COMPONENT-605,COMPONENT-606,COMPONENT-607,COMPONENT-608,COMPONENT-609,COMPONENT-610,
COMPONENT-611,COMPONENT-612,COMPONENT-613,COMPONENT-614,COMPONENT-615,COMPONENT-616,
COMPONENT-617,COMPONENT-618,COMPONENT-619,COMPONENT-620,COMPONENT-621,COMPONENT-622,
COMPONENT-623,COMPONENT-624,COMPONENT-625,COMPONENT-626,COMPONENT-627,COMPONENT-628,
COMPONENT-629,COMPONENT-630,COMPONENT-631,COMPONENT-632,COMPONENT-633,COMPONENT-634,
COMPONENT-635,COMPONENT-636,COMPONENT-637,COMPONENT-638,COMPONENT-639,COMPONENT-640,
COMPONENT-641,COMPONENT-642,COMPONENT-643,COMPONENT-644,COMPONENT-645,COMPONENT-646,
COMPONENT-647,COMPONENT-648,COMPONENT-649,COMPONENT-650,COMPONENT-651,COMPONENT-652,
COMPONENT-653,COMPONENT-654,COMPONENT-655,COMPONENT-656,COMPONENT-657,COMPONENT-658,
COMPONENT-659,COMPONENT-660,COMPONENT-661,COMPONENT-662,COMPONENT-663,COMPONENT-664,
COMPONENT-665,COMPONENT-666,COMPONENT-667,COMPONENT-668,COMPONENT-669,COMPONENT-670,
COMPONENT-671,COMPONENT-672,COMPONENT-673,COMPONENT-674,COMPONENT-675,COMPONENT-676,
COMPONENT-677,COMPONENT-678,COMPONENT-679,COMPONENT-680,COMPONENT-681,COMPONENT-682,
COMPONENT-683,COMPONENT-684,COMPONENT-685,COMPONENT-686,COMPONENT-687,COMPONENT-688,
COMPONENT-689,COMPONENT-690,COMPONENT-691,COMPONENT-692,COMPONENT-693,COMPONENT-694,
COMPONENT-695,COMPONENT-696,COMPONENT-697,COMPONENT-698,COMPONENT-699,COMPONENT-700,
COMPONENT-701,COMPONENT-702,COMPONENT-703,COMPONENT-704,COMPONENT-705,COMPONENT-706,
COMPONENT-707,COMPONENT-708,COMPONENT-709,COMPONENT-710,COMPONENT-711,COMPONENT-712,
COMPONENT-713,COMPONENT-714,COMPONENT-715,COMPONENT-716,COMPONENT-717,COMPONENT-718,
COMPONENT-719,COMPONENT-720,COMPONENT-721,COMPONENT-722,COMPONENT-723,COMPONENT-724,
COMPONENT-725,COMPONENT-726,COMPONENT-727,COMPONENT-728,COMPONENT-729,COMPONENT-730,
COMPONENT-731,COMPONENT-732,COMPONENT-733,COMPONENT-734,COMPONENT-735,COMPONENT-736,
COMPONENT-737,COMPONENT-738,COMPONENT-739,COMPONENT-740,COMPONENT-741,COMPONENT-742,
COMPONENT-743,COMPONENT-744,COMPONENT-745,COMPONENT-746,COMPONENT-747,COMPONENT-748,
COMPONENT-749,COMPONENT-750,COMPONENT-751,COMPONENT-752,COMPONENT-753,COMPONENT-754,
COMPONENT-755,COMPONENT-756,COMPONENT-757,COMPONENT-758,COMPONENT-759,COMPONENT-760,
COMPONENT-761,COMPONENT-762,COMPONENT-763,COMPONENT-764,COMPONENT-765,COMPONENT-766,
COMPONENT-767,COMPONENT-768;
1AFF0,KATAKANA LETTER MINNAN ,TONE-2,TONE-3,TONE-4,TONE-5,,TONE-7,TONE-8;
1AFF7,KATAKANA LETTER MINNAN NASALIZED ,TONE-1,TONE-2,TONE-3,TONE-4,TONE-5,,TONE-7,TONE-8;
1B000,,KATAKANA LETTER ARCHAIC E,HIRAGANA LETTER ARCHAIC YE;
1B002,HENTAIGANA LETTER ,A-1,A-2,A-3,A-WO,I-1,I-2,I-3,I-4,U-1,U-2,U-3,U-4,U-5,E-2,E-3,E-4,E-5,
E-6,O-1,O-2,O-3,KA-1,KA-2,KA-3,KA-4,KA-5,KA-6,KA-7,KA-8,KA-9,KA-10,KA-11,KA-KE,KI-1,KI-2,KI-3,
KI-4,KI-5,KI-6,KI-7,KI-8,KU-1,KU-2,KU-3,KU-4,KU-5,KU-6,KU-7,KE-1,KE-2,KE-3,KE-4,KE-5,KE-6,KO-1,
KO-2,KO-3,KO-KI,SA-1,SA-2,SA-3,SA-4,SA-5,SA-6,SA-7,SA-8,SI-1,SI-2,SI-3,SI-4,SI-5,SI-6,SU-1,SU-2,
SU-3,SU-4,SU-5,SU-6,SU-7,SU-8,SE-1,SE-2,SE-3,SE-4,SE-5,SO-1,SO-2,SO-3,SO-4,SO-5,SO-6,SO-7,TA-1,
TA-2,TA-3,TA-4,TI-1,TI-2,TI-3,TI-4,TI-5,TI-6,TI-7,TU-1,TU-2,TU-3,TU-4,TU-TO,TE-1,TE-2,TE-3,TE-4,
TE-5,TE-6,TE-7,TE-8,TE-9,TO-1,TO-2,TO-3,TO-4,TO-5,TO-6,TO-RA,NA-1,NA-2,NA-3,NA-4,NA-5,NA-6,NA-7,
NA-8,NA-9,NI-1,NI-2,NI-3,NI-4,NI-5,NI-6,NI-7,NI-TE,NU-1,NU-2,NU-3,NE-1,NE-2,NE-3,NE-4,NE-5,NE-6,
NE-KO,NO-1,NO-2,NO-3,NO-4,NO-5,HA-1,HA-2,HA-3,HA-4,HA-5,HA-6,HA-7,HA-8,HA-9,HA-10,HA-11,HI-1,
HI-2,HI-3,HI-4,HI-5,HI-6,HI-7,HU-1,HU-2,HU-3,HE-1,HE-2,HE-3,HE-4,HE-5,HE-6,HE-7,HO-1,HO-2,HO-3,
HO-4,HO-5,HO-6,HO-7,HO-8,MA-1,MA-2,MA-3,MA-4,MA-5,MA-6,MA-7,MI-1,MI-2,MI-3,MI-4,MI-5,MI-6,MI-7,
MU-1,MU-2,MU-3,MU-4,ME-1,ME-2,ME-MA,MO-1,MO-2,MO-3,MO-4,MO-5,MO-6,YA-1,YA-2,YA-3,YA-4,YA-5,YA-YO,
YU-1,YU-2,YU-3,YU-4,YO-1,YO-2,YO-3,YO-4,YO-5,YO-6,RA-1,RA-2,RA-3,RA-4,RI-1,RI-2,RI-3,RI-4,RI-5,
RI-6,RI-7,RU-1,RU-2,RU-3,RU-4,RU-5,RU-6,RE-1,RE-2,RE-3,RE-4,RO-1,RO-2,RO-3,RO-4,RO-5,RO-6,WA-1,
WA-2,WA-3,WA-4,WA-5,WI-1,WI-2,WI-3,WI-4,WI-5,WE-1,WE-2,WE-3,WE-4,WO-1,WO-2,WO-3,WO-4,WO-5,WO-6,
WO-7,N-MU-MO-1,N-MU-MO-2;
1B11F,,HIRAGANA LETTER ARCHAIC WU;
1B120,KATAKANA LETTER ARCHAIC ,YI,YE,WU;
1B150,HIRAGANA LETTER SMALL ,WI,WE,WO;
1B164,KATAKANA LETTER SMALL ,WI,WE,WO,N;
1BC00,DUPLOYAN LETTER ,H,X,P,T,F,K,L,B,D,V,G,R,P N,D S,F N,K M,R S,TH,SLOAN DH,DH,KK,SLOAN J,HL,
LH,RH,M,N,J,S,M N,N M,J M,S J,M WITH DOT,N WITH DOT,J WITH DOT,J WITH DOTS INSIDE AND ABOVE,
S WITH DOT,S WITH DOT BELOW,M S,N S,J S,S S,M N S,N M S,J M S,S J S,J S WITH DOT,J N,J N S,S T,
S T R,S P,S P R,T S,T R S,W,WH,W R,S N,S M,K R S,G R S,S K,S K R,A,SLOAN OW,OA,O,AOU,I,E,IE,
SHORT I,UI,EE,SLOAN EH,ROMANIAN I,SLOAN EE,LONG I,YE,U,EU,XW,U N,LONG U,ROMANIAN U,UH,SLOAN U,
OOH,OW,OU,WA,WO,WI,WEI,WOW,NASAL U,NASAL O,NASAL I,NASAL A,PERNIN AN,PERNIN AM,SLOAN EN,SLOAN AN,
SLOAN ON,VOCALIC M;
1BC70,DUPLOYAN AFFIX ,LEFT HORIZONTAL SECANT,MID HORIZONTAL SECANT,RIGHT HORIZONTAL SECANT,
LOW VERTICAL SECANT,MID VERTICAL SECANT,HIGH VERTICAL SECANT;
1BC76,DUPLOYAN AFFIX ATTACHED ,SECANT,LEFT-TO-RIGHT SECANT,TANGENT,TAIL,E HOOK,I HOOK,
TANGENT HOOK;
1BC80,DUPLOYAN AFFIX HIGH ,ACUTE,TIGHT ACUTE,GRAVE,LONG GRAVE,DOT,CIRCLE,LINE,WAVE,VERTICAL;
1BC90,DUPLOYAN AFFIX LOW ,ACUTE,TIGHT ACUTE,GRAVE,LONG GRAVE,DOT,CIRCLE,LINE,WAVE,VERTICAL,ARROW;
1BC9C,DUPLOYAN ,SIGN O WITH CROSS,THICK LETTER SELECTOR,DOUBLE MARK,
PUNCTUATION CHINOOK FULL STOP;
1BCA0,SHORTHAND FORMAT ,LETTER OVERLAP,CONTINUING OVERLAP,DOWN STEP,UP STEP"

end SasMigration.CharacterName
