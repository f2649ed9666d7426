namespace SasMigration.CharacterName

def brahmic : String := "
11000,BRAHMI SIGN ,CANDRABINDU,ANUSVARA,VISARGA,JIHVAMULIYA,UPADHMANIYA;
11005,BRAHMI LETTER ,A,AA,I,II,U,UU,VOCALIC R,VOCALIC RR,VOCALIC L,VOCALIC LL,E,AI,O,AU,KA,KHA,
GA,GHA,NGA,CA,CHA,JA,JHA,NYA,TTA,TTHA,DDA,DDHA,NNA,TA,THA,DA,DHA,NA,PA,PHA,BA,BHA,MA,YA,RA,LA,VA,
SHA,SSA,SA,HA,LLA,OLD TAMIL LLLA,OLD TAMIL RRA,OLD TAMIL NNNA;
11038,BRAHMI VOWEL SIGN ,AA,BHATTIPROLU AA,I,II,U,UU,VOCALIC R,VOCALIC RR,VOCALIC L,VOCALIC LL,E,
AI,O,AU;
11046,BRAHMI ,VIRAMA,DANDA,DOUBLE DANDA;
11049,BRAHMI PUNCTUATION ,DOT,DOUBLE DOT,LINE,CRESCENT BAR,LOTUS;
11052,BRAHMI NUMBER ,ONE,TWO,THREE,FOUR,FIVE,SIX,SEVEN,EIGHT,NINE,TEN,TWENTY,THIRTY,FORTY,FIFTY,
SIXTY,SEVENTY,EIGHTY,NINETY,ONE HUNDRED,ONE THOUSAND;
11066,BRAHMI DIGIT ,ZERO,ONE,TWO,THREE,FOUR,FIVE,SIX,SEVEN,EIGHT,NINE;
11070,,BRAHMI SIGN OLD TAMIL VIRAMA;
11071,BRAHMI LETTER OLD TAMIL SHORT ,E,O;
11073,BRAHMI VOWEL SIGN OLD TAMIL SHORT ,E,O;
11075,,BRAHMI LETTER OLD TAMIL LLA;
1107F,,BRAHMI NUMBER JOINER;
11080,KAITHI SIGN ,CANDRABINDU,ANUSVARA,VISARGA;
11083,KAITHI LETTER ,A,AA,I,II,U,UU,E,AI,O,AU,KA,KHA,GA,GHA,NGA,CA,CHA,JA,JHA,NYA,TTA,TTHA,DDA,
DDDHA,DDHA,RHA,NNA,TA,THA,DA,DHA,NA,PA,PHA,BA,BHA,MA,YA,RA,LA,VA,SHA,SSA,SA,HA;
110B0,KAITHI VOWEL SIGN ,AA,I,II,U,UU,E,AI,O,AU;
110B9,KAITHI ,SIGN VIRAMA,SIGN NUKTA,ABBREVIATION SIGN,ENUMERATION SIGN,NUMBER SIGN,SECTION MARK,
DOUBLE SECTION MARK,DANDA,DOUBLE DANDA,VOWEL SIGN VOCALIC R;
110CD,,KAITHI NUMBER SIGN ABOVE;
110D0,SORA SOMPENG LETTER ,SAH,TAH,BAH,CAH,DAH,GAH,MAH,NGAH,LAH,NAH,VAH,PAH,YAH,RAH,HAH,KAH,JAH,
NYAH,AH,EEH,IH,UH,OH,EH,MAE;
110F0,SORA SOMPENG DIGIT ,ZERO,ONE,TWO,THREE,FOUR,FIVE,SIX,SEVEN,EIGHT,NINE;
11100,CHAKMA SIGN ,CANDRABINDU,ANUSVARA,VISARGA;
11103,CHAKMA LETTER ,AA,I,U,E,KAA,KHAA,GAA,GHAA,NGAA,CAA,CHAA,JAA,JHAA,NYAA,TTAA,TTHAA,DDAA,
DDHAA,NNAA,TAA,THAA,DAA,DHAA,NAA,PAA,PHAA,BAA,BHAA,MAA,YYAA,YAA,RAA,LAA,WAA,SAA,HAA;
11127,CHAKMA VOWEL SIGN ,A,I,II,U,UU,E,AI,O,AU,OI;
11131,CHAKMA ,O MARK,AU MARK,VIRAMA,MAAYYAA;
11136,CHAKMA DIGIT ,ZERO,ONE,TWO,THREE,FOUR,FIVE,SIX,SEVEN,EIGHT,NINE;
11140,CHAKMA ,SECTION MARK,DANDA,DOUBLE DANDA,QUESTION MARK,LETTER LHAA,VOWEL SIGN AA,
VOWEL SIGN EI,LETTER VAA;
11150,MAHAJANI LETTER ,A,I,U,E,O,KA,KHA,GA,GHA,CA,CHA,JA,JHA,NYA,TTA,TTHA,DDA,DDHA,NNA,TA,THA,DA,
DHA,NA,PA,PHA,BA,BHA,MA,RA,LA,VA,SA,HA,RRA;
11173,MAHAJANI ,SIGN NUKTA,ABBREVIATION SIGN,SECTION MARK,LIGATURE SHRI;
11180,SHARADA SIGN ,CANDRABINDU,ANUSVARA,VISARGA;
11183,SHARADA LETTER ,A,AA,I,II,U,UU,VOCALIC R,VOCALIC RR,VOCALIC L,VOCALIC LL,E,AI,O,AU,KA,KHA,
GA,GHA,NGA,CA,CHA,JA,JHA,NYA,TTA,TTHA,DDA,DDHA,NNA,TA,THA,DA,DHA,NA,PA,PHA,BA,BHA,MA,YA,RA,LA,
LLA,VA,SHA,SSA,SA,HA;
111B3,SHARADA VOWEL SIGN ,AA,I,II,U,UU,VOCALIC R,VOCALIC RR,VOCALIC L,VOCALIC LL,E,AI,O,AU;
111C0,SHARADA ,SIGN VIRAMA,SIGN AVAGRAHA,SIGN JIHVAMULIYA,SIGN UPADHMANIYA,OM,DANDA,DOUBLE DANDA,
ABBREVIATION SIGN,SEPARATOR,SANDHI MARK,SIGN NUKTA,VOWEL MODIFIER MARK,EXTRA SHORT VOWEL MARK,
SUTRA MARK,VOWEL SIGN PRISHTHAMATRA E,SIGN INVERTED CANDRABINDU;
111D0,SHARADA DIGIT ,ZERO,ONE,TWO,THREE,FOUR,FIVE,SIX,SEVEN,EIGHT,NINE;
111DA,SHARADA ,EKAM,SIGN SIDDHAM,HEADSTROKE,CONTINUATION SIGN,SECTION MARK-1,SECTION MARK-2;
111E1,SINHALA ARCHAIC DIGIT ,ONE,TWO,THREE,FOUR,FIVE,SIX,SEVEN,EIGHT,NINE;
111EA,SINHALA ARCHAIC NUMBER ,TEN,TWENTY,THIRTY,FORTY,FIFTY,SIXTY,SEVENTY,EIGHTY,NINETY,
ONE HUNDRED,ONE THOUSAND;
11200,KHOJKI LETTER ,A,AA,I,U,E,AI,O,AU,KA,KHA,GA,GGA,GHA,NGA,CA,CHA,JA,JJA,,NYA,TTA,TTHA,DDA,
DDHA,NNA,TA,THA,DA,DDDA,DHA,NA,PA,PHA,BA,BBA,BHA,MA,YA,RA,LA,VA,SA,HA,LLA;
1122C,KHOJKI VOWEL SIGN ,AA,I,II,U,E,AI,O,AU;
11234,KHOJKI ,SIGN ANUSVARA,SIGN VIRAMA,SIGN NUKTA,SIGN SHADDA,DANDA,DOUBLE DANDA,WORD SEPARATOR,
SECTION MARK,DOUBLE SECTION MARK,ABBREVIATION SIGN,SIGN SUKUN;
11280,MULTANI LETTER ,A,I,U,E,KA,KHA,GA,,GHA,,CA,CHA,JA,JJA,,NYA,TTA,TTHA,DDA,DDDA,DDHA,NNA,TA,
THA,DA,DHA,NA,PA,PHA,BA,,BHA,MA,YA,RA,LA,VA,SA,HA,RRA,RHA;
112A9,,MULTANI SECTION MARK;
112B0,KHUDAWADI LETTER ,A,AA,I,II,U,UU,E,AI,O,AU,KA,KHA,GA,GGA,GHA,NGA,CA,CHA,JA,JJA,JHA,NYA,TTA,
TTHA,DDA,DDDA,RRA,DDHA,NNA,TA,THA,DA,DHA,NA,PA,PHA,BA,BBA,BHA,MA,YA,RA,LA,VA,SHA,SA,HA;
112DF,,KHUDAWADI SIGN ANUSVARA;
112E0,KHUDAWADI VOWEL SIGN ,AA,I,II,U,UU,E,AI,O,AU;
112E9,KHUDAWADI SIGN ,NUKTA,VIRAMA;
112F0,KHUDAWADI DIGIT ,ZERO,ONE,TWO,THREE,FOUR,FIVE,SIX,SEVEN,EIGHT,NINE;
11300,GRANTHA SIGN ,COMBINING ANUSVARA ABOVE,CANDRABINDU,ANUSVARA,VISARGA;
11305,GRANTHA LETTER ,A,AA,I,II,U,UU,VOCALIC R,VOCALIC L,,,EE,AI,,,OO,AU,KA,KHA,GA,GHA,NGA,CA,
CHA,JA,JHA,NYA,TTA,TTHA,DDA,DDHA,NNA,TA,THA,DA,DHA,NA,,PA,PHA,BA,BHA,MA,YA,RA,,LA,LLA,,VA,SHA,
SSA,SA,HA;
1133B,,COMBINING BINDU BELOW;
1133C,GRANTHA SIGN ,NUKTA,AVAGRAHA;
1133E,GRANTHA VOWEL SIGN ,AA,I,II,U,UU,VOCALIC R,VOCALIC RR,,,EE,AI,,,OO,AU;
1134D,GRANTHA ,SIGN VIRAMA,,,OM;
11357,,GRANTHA AU LENGTH MARK;
1135D,,GRANTHA SIGN PLUTA;
1135E,GRANTHA LETTER ,VEDIC ANUSVARA,VEDIC DOUBLE ANUSVARA,VOCALIC RR,VOCALIC LL;
11362,GRANTHA VOWEL SIGN VOCALIC ,L,LL;
11366,COMBINING GRANTHA DIGIT ,ZERO,ONE,TWO,THREE,FOUR,FIVE,SIX;
11370,COMBINING GRANTHA LETTER ,A,KA,NA,VI,PA;
11400,NEWA LETTER ,A,AA,I,II,U,UU,VOCALIC R,VOCALIC RR,VOCALIC L,VOCALIC LL,E,AI,O,AU,KA,KHA,GA,
GHA,NGA,NGHA,CA,CHA,JA,JHA,NYA,NYHA,TTA,TTHA,DDA,DDHA,NNA,TA,THA,DA,DHA,NA,NHA,PA,PHA,BA,BHA,MA,
MHA,YA,RA,RHA,LA,LHA,WA,SHA,SSA,SA,HA;
11435,NEWA VOWEL SIGN ,AA,I,II,U,UU,VOCALIC R,VOCALIC RR,VOCALIC L,VOCALIC LL,E,AI,O,AU;
11442,NEWA SIGN ,VIRAMA,CANDRABINDU,ANUSVARA,VISARGA,NUKTA,AVAGRAHA,FINAL ANUSVARA;
11449,NEWA ,OM,SIDDHI,DANDA,DOUBLE DANDA,COMMA,GAP FILLER,ABBREVIATION SIGN;
11450,NEWA DIGIT ,ZERO,ONE,TWO,THREE,FOUR,FIVE,SIX,SEVEN,EIGHT,NINE;
1145A,NEWA ,DOUBLE COMMA,PLACEHOLDER MARK,,INSERTION SIGN,SANDHI MARK,LETTER VEDIC ANUSVARA,
SIGN JIHVAMULIYA,SIGN UPADHMANIYA;
11480,,TIRHUTA ANJI;
11481,TIRHUTA LETTER ,A,AA,I,II,U,UU,VOCALIC R,VOCALIC RR,VOCALIC L,VOCALIC LL,E,AI,O,AU,KA,KHA,
GA,GHA,NGA,CA,CHA,JA,JHA,NYA,TTA,TTHA,DDA,DDHA,NNA,TA,THA,DA,DHA,NA,PA,PHA,BA,BHA,MA,YA,RA,LA,VA,
SHA,SSA,SA,HA;
114B0,TIRHUTA VOWEL SIGN ,AA,I,II,U,UU,VOCALIC R,VOCALIC RR,VOCALIC L,VOCALIC LL,E,SHORT E,AI,O,
SHORT O,AU;
114BF,TIRHUTA SIGN ,CANDRABINDU,ANUSVARA,VISARGA,VIRAMA,NUKTA,AVAGRAHA;
114C5,TIRHUTA ,GVANG,ABBREVIATION SIGN,OM;
114D0,TIRHUTA DIGIT ,ZERO,ONE,TWO,THREE,FOUR,FIVE,SIX,SEVEN,EIGHT,NINE;
11580,SIDDHAM LETTER ,A,AA,I,II,U,UU,VOCALIC R,VOCALIC RR,VOCALIC L,VOCALIC LL,E,AI,O,AU,KA,KHA,
GA,GHA,NGA,CA,CHA,JA,JHA,NYA,TTA,TTHA,DDA,DDHA,NNA,TA,THA,DA,DHA,NA,PA,PHA,BA,BHA,MA,YA,RA,LA,VA,
SHA,SSA,SA,HA;
115AF,SIDDHAM VOWEL SIGN ,AA,I,II,U,UU,VOCALIC R,VOCALIC RR,,,E,AI,O,AU;
115BC,SIDDHAM SIGN ,CANDRABINDU,ANUSVARA,VISARGA,VIRAMA,NUKTA,SIDDHAM;
115C2,SIDDHAM ,DANDA,DOUBLE DANDA,SEPARATOR DOT,SEPARATOR BAR,REPETITION MARK-1,
REPETITION MARK-2,REPETITION MARK-3,END OF TEXT MARK;
115CA,SIDDHAM SECTION MARK WITH TRIDENT AND ,U-SHAPED ORNAMENTS,DOTTED CRESCENTS;
115CC,SIDDHAM SECTION MARK WITH RAYS AND DOTTED ,CRESCENTS,DOUBLE CRESCENTS,TRIPLE CRESCENTS;
115CF,SIDDHAM SECTION MARK DOUBLE ,RING,RING WITH RAYS;
115D1,SIDDHAM SECTION MARK WITH ,DOUBLE CRESCENTS,TRIPLE CRESCENTS,QUADRUPLE CRESCENTS,
SEPTUPLE CRESCENTS,CIRCLES AND RAYS,CIRCLES AND TWO ENCLOSURES,CIRCLES AND FOUR ENCLOSURES;
115D8,SIDDHAM LETTER ,THREE-CIRCLE ALTERNATE I,TWO-CIRCLE ALTERNATE I,TWO-CIRCLE ALTERNATE II,
ALTERNATE U;
115DC,SIDDHAM VOWEL SIGN ALTERNATE ,U,UU;
11600,MODI LETTER ,A,AA,I,II,U,UU,VOCALIC R,VOCALIC RR,VOCALIC L,VOCALIC LL,E,AI,O,AU,KA,KHA,GA,
GHA,NGA,CA,CHA,JA,JHA,NYA,TTA,TTHA,DDA,DDHA,NNA,TA,THA,DA,DHA,NA,PA,PHA,BA,BHA,MA,YA,RA,LA,VA,
SHA,SSA,SA,HA,LLA;
11630,MODI VOWEL SIGN ,AA,I,II,U,UU,VOCALIC R,VOCALIC RR,VOCALIC L,VOCALIC LL,E,AI,O,AU;
1163D,MODI SIGN ,ANUSVARA,VISARGA,VIRAMA,ARDHACANDRA;
11641,MODI ,DANDA,DOUBLE DANDA,ABBREVIATION SIGN,SIGN HUVA;
11650,MODI DIGIT ,ZERO,ONE,TWO,THREE,FOUR,FIVE,SIX,SEVEN,EIGHT,NINE;
11660,MONGOLIAN ,BIRGA WITH ORNAMENT,ROTATED BIRGA,DOUBLE BIRGA WITH ORNAMENT,
TRIPLE BIRGA WITH ORNAMENT,BIRGA WITH DOUBLE ORNAMENT,ROTATED BIRGA WITH ORNAMENT,
ROTATED BIRGA WITH DOUBLE ORNAMENT,INVERTED BIRGA,INVERTED BIRGA WITH DOUBLE ORNAMENT,
SWIRL BIRGA,SWIRL BIRGA WITH ORNAMENT,SWIRL BIRGA WITH DOUBLE ORNAMENT,
TURNED SWIRL BIRGA WITH DOUBLE ORNAMENT;
11680,TAKRI LETTER ,A,AA,I,II,U,UU,E,AI,O,AU,KA,KHA,GA,GHA,NGA,CA,CHA,JA,JHA,NYA,TTA,TTHA,DDA,
DDHA,NNA,TA,THA,DA,DHA,NA,PA,PHA,BA,BHA,MA,YA,RA,LA,VA,SHA,SA,HA,RRA;
116AB,TAKRI SIGN ,ANUSVARA,VISARGA;
116AD,TAKRI VOWEL SIGN ,AA,I,II,U,UU,E,AI,O,AU;
116B6,TAKRI ,SIGN VIRAMA,SIGN NUKTA,LETTER ARCHAIC KHA,ABBREVIATION SIGN;
116C0,TAKRI DIGIT ,ZERO,ONE,TWO,THREE,FOUR,FIVE,SIX,SEVEN,EIGHT,NINE;
11700,AHOM LETTER ,KA,KHA,NGA,NA,TA,ALTERNATE TA,PA,PHA,BA,MA,JA,CHA,THA,RA,LA,SA,NYA,HA,A,DA,
DHA,GA,ALTERNATE GA,GHA,BHA,JHA,ALTERNATE BA;
1171D,AHOM CONSONANT SIGN MEDIAL ,LA,RA,LIGATING RA;
11720,AHOM VOWEL SIGN ,A,AA,I,II,U,UU,E,AW,O,AI,AM;
1172B,,AHOM SIGN KILLER;
11730,AHOM DIGIT ,ZERO,ONE,TWO,THREE,FOUR,FIVE,SIX,SEVEN,EIGHT,NINE;
1173A,AHOM ,NUMBER TEN,NUMBER TWENTY,SIGN SMALL SECTION,SIGN SECTION,SIGN RULAI,SYMBOL VI;
11740,AHOM LETTER ,CA,TTA,TTHA,DDA,DDHA,NNA,LLA;
11800,DOGRA LETTER ,A,AA,I,II,U,UU,E,AI,O,AU,KA,KHA,GA,GHA,NGA,CA,CHA,JA,JHA,NYA,TTA,TTHA,DDA,
DDHA,NNA,TA,THA,DA,DHA,NA,PA,PHA,BA,BHA,MA,YA,RA,LA,VA,SHA,SSA,SA,HA,RRA;
1182C,DOGRA VOWEL SIGN ,AA,I,II,U,UU,VOCALIC R,VOCALIC RR,E,AI,O,AU;
11837,DOGRA SIGN ,ANUSVARA,VISARGA,VIRAMA,NUKTA;
1183B,,DOGRA ABBREVIATION SIGN;
118A0,WARANG CITI CAPITAL LETTER ,NGAA,A,WI,YU,YA,YO,II,UU,E,O,ANG,GA,KO,ENY,YUJ,UC,ENN,ODD,TTE,
NUNG,DA,AT,AM,BU,PU,HIYO,HOLO,HORR,HAR,SSUU,SII,VIYO;
118C0,WARANG CITI SMALL LETTER ,NGAA,A,WI,YU,YA,YO,II,UU,E,O,ANG,GA,KO,ENY,YUJ,UC,ENN,ODD,TTE,
NUNG,DA,AT,AM,BU,PU,HIYO,HOLO,HORR,HAR,SSUU,SII,VIYO;
118E0,WARANG CITI DIGIT ,ZERO,ONE,TWO,THREE,FOUR,FIVE,SIX,SEVEN,EIGHT,NINE;
118EA,WARANG CITI NUMBER ,TEN,TWENTY,THIRTY,FORTY,FIFTY,SIXTY,SEVENTY,EIGHTY,NINETY;
118FF,,WARANG CITI OM;
11900,DIVES AKURU LETTER ,A,AA,I,II,U,UU,E,,,O,,,KA,KHA,GA,GHA,NGA,CA,CHA,JA,,NYA,TTA,,DDA,DDHA,
NNA,TA,THA,DA,DHA,NA,PA,PHA,BA,BHA,MA,YA,YYA,RA,LA,VA,SHA,SSA,SA,HA,LLA,ZA;
11930,DIVES AKURU VOWEL SIGN ,AA,I,II,U,UU,E,,AI,O;
1193B,DIVES AKURU ,SIGN ANUSVARA,SIGN CANDRABINDU,SIGN HALANTA,VIRAMA,PREFIXED NASAL SIGN,
MEDIAL YA,INITIAL RA,MEDIAL RA,SIGN NUKTA,DOUBLE DANDA,GAP FILLER,END OF TEXT MARK;
11950,DIVES AKURU DIGIT ,ZERO,ONE,TWO,THREE,FOUR,FIVE,SIX,SEVEN,EIGHT,NINE;
119A0,NANDINAGARI LETTER ,A,AA,I,II,U,UU,VOCALIC R,VOCALIC RR,,,E,AI,O,AU,KA,KHA,GA,GHA,NGA,CA,
CHA,JA,JHA,NYA,TTA,TTHA,DDA,DDHA,NNA,TA,THA,DA,DHA,NA,PA,PHA,BA,BHA,MA,YA,RA,LA,VA,SHA,SSA,SA,HA,
LLA,RRA;
119D1,NANDINAGARI VOWEL SIGN ,AA,I,II,U,UU,VOCALIC R,VOCALIC RR,,,E,AI,O,AU;
119DE,NANDINAGARI ,SIGN ANUSVARA,SIGN VISARGA,SIGN VIRAMA,SIGN AVAGRAHA,SIGN SIDDHAM,HEADSTROKE,
VOWEL SIGN PRISHTHAMATRA E;
11A00,,ZANABAZAR SQUARE LETTER A;
11A01,ZANABAZAR SQUARE VOWEL SIGN ,I,UE,U,E,OE,O,AI,AU,REVERSED I;
11A0A,,ZANABAZAR SQUARE VOWEL LENGTH MARK;
11A0B,ZANABAZAR SQUARE LETTER ,KA,KHA,GA,GHA,NGA,CA,CHA,JA,NYA,TTA,TTHA,DDA,DDHA,NNA,TA,THA,DA,
DHA,NA,PA,PHA,BA,BHA,MA,TSA,TSHA,DZA,DZHA,ZHA,ZA,-A,YA,RA,LA,VA,SHA,SSA,SA,HA,KSSA;
11A33,ZANABAZAR SQUARE ,FINAL CONSONANT MARK,SIGN VIRAMA,SIGN CANDRABINDU,
SIGN CANDRABINDU WITH ORNAMENT,SIGN CANDRA WITH ORNAMENT,SIGN ANUSVARA,SIGN VISARGA,
CLUSTER-INITIAL LETTER RA;
11A3B,ZANABAZAR SQUARE CLUSTER-FINAL LETTER ,YA,RA,LA,VA;
11A3F,ZANABAZAR SQUARE ,INITIAL HEAD MARK,CLOSING HEAD MARK,MARK TSHEG,MARK SHAD,
MARK DOUBLE SHAD,MARK LONG TSHEG,INITIAL DOUBLE-LINED HEAD MARK,CLOSING DOUBLE-LINED HEAD MARK,
SUBJOINER;
11A50,,SOYOMBO LETTER A;
11A51,SOYOMBO VOWEL SIGN ,I,UE,U,E,O,OE,AI,AU,VOCALIC R,VOCALIC L;
11A5B,,SOYOMBO VOWEL LENGTH MARK;
11A5C,SOYOMBO LETTER ,KA,KHA,GA,GHA,NGA,CA,CHA,JA,JHA,NYA,TTA,TTHA,DDA,DDHA,NNA,TA,THA,DA,DHA,NA,
PA,PHA,BA,BHA,MA,TSA,TSHA,DZA,ZHA,ZA,-A,YA,RA,LA,VA,SHA,SSA,SA,HA,KSSA;
11A84,SOYOMBO SIGN ,JIHVAMULIYA,UPADHMANIYA;
11A86,SOYOMBO CLUSTER-INITIAL LETTER ,RA,LA,SHA,SA;
11A8A,SOYOMBO FINAL CONSONANT SIGN ,G,K,NG,D,N,B,M,R,L,SH,S,-A;
11A96,SOYOMBO ,SIGN ANUSVARA,SIGN VISARGA,GEMINATION MARK,SUBJOINER,MARK TSHEG,MARK SHAD,
MARK DOUBLE SHAD,MARK PLUTA;
11A9E,SOYOMBO HEAD MARK WITH MOON AND ,SUN AND TRIPLE FLAME,SUN AND FLAME,SUN;
11AA1,SOYOMBO TERMINAL ,MARK-1,MARK-2;
11AB0,CANADIAN SYLLABICS NATTILIK ,HI,HII,HO,HOO,HA,HAA,SHRI,SHRII,SHRO,SHROO,SHRA,SHRAA;
11ABC,CANADIAN SYLLABICS ,SPE,SPI,SPO,SPA;
11AC0,PAU CIN HAU LETTER ,PA,KA,LA,MA,DA,ZA,VA,NGA,HA,GA,KHA,SA,BA,CA,TA,THA,NA,PHA,RA,FA,CHA,A,
E,I,O,U,UA,IA;
11ADC,PAU CIN HAU LETTER FINAL ,P,K,T,M,N,L,W,NG,Y;
11AE5,PAU CIN HAU ,RISING TONE LONG,RISING TONE,SANDHI GLOTTAL STOP,RISING TONE LONG FINAL,
RISING TONE FINAL,SANDHI GLOTTAL STOP FINAL,SANDHI TONE LONG,SANDHI TONE,SANDHI TONE LONG FINAL,
SANDHI TONE FINAL,MID-LEVEL TONE,GLOTTAL STOP VARIANT,MID-LEVEL TONE LONG FINAL,
MID-LEVEL TONE FINAL,LOW-FALLING TONE LONG,LOW-FALLING TONE,GLOTTAL STOP,
LOW-FALLING TONE LONG FINAL,LOW-FALLING TONE FINAL,GLOTTAL STOP FINAL;
11C00,BHAIKSUKI LETTER ,A,AA,I,II,U,UU,VOCALIC R,VOCALIC RR,VOCALIC L,,E,AI,O,AU,KA,KHA,GA,GHA,
NGA,CA,CHA,JA,JHA,NYA,TTA,TTHA,DDA,DDHA,NNA,TA,THA,DA,DHA,NA,PA,PHA,BA,BHA,MA,YA,RA,LA,VA,SHA,
SSA,SA,HA;
11C2F,BHAIKSUKI VOWEL SIGN ,AA,I,II,U,UU,VOCALIC R,VOCALIC RR,VOCALIC L,,E,AI,O,AU;
11C3C,BHAIKSUKI SIGN ,CANDRABINDU,ANUSVARA,VISARGA,VIRAMA,AVAGRAHA;
11C41,BHAIKSUKI ,DANDA,DOUBLE DANDA,WORD SEPARATOR,GAP FILLER-1,GAP FILLER-2;
11C50,BHAIKSUKI DIGIT ,ZERO,ONE,TWO,THREE,FOUR,FIVE,SIX,SEVEN,EIGHT,NINE;
11C5A,BHAIKSUKI NUMBER ,ONE,TWO,THREE,FOUR,FIVE,SIX,SEVEN,EIGHT,NINE,TEN,TWENTY,THIRTY,FORTY,
FIFTY,SIXTY,SEVENTY,EIGHTY,NINETY;
11C6C,,BHAIKSUKI HUNDREDS UNIT MARK;
11C70,MARCHEN ,HEAD MARK,MARK SHAD;
11C72,MARCHEN LETTER ,KA,KHA,GA,NGA,CA,CHA,JA,NYA,TA,THA,DA,NA,PA,PHA,BA,MA,TSA,TSHA,DZA,WA,ZHA,
ZA,-A,YA,RA,LA,SHA,SA,HA,A;
11C92,MARCHEN SUBJOINED LETTER ,KA,KHA,GA,NGA,CA,CHA,JA,NYA,TA,THA,DA,NA,PA,PHA,BA,MA,TSA,TSHA,
DZA,WA,ZHA,ZA,,YA,RA,LA,SHA,SA,HA,A;
11CB0,MARCHEN VOWEL SIGN ,AA,I,U,E,O;
11CB5,MARCHEN SIGN ,ANUSVARA,CANDRABINDU;
11D00,MASARAM GONDI LETTER ,A,AA,I,II,U,UU,E,,AI,O,,AU,KA,KHA,GA,GHA,NGA,CA,CHA,JA,JHA,NYA,TTA,
TTHA,DDA,DDHA,NNA,TA,THA,DA,DHA,NA,PA,PHA,BA,BHA,MA,YA,RA,LA,VA,SHA,SSA,SA,HA,LLA,KSSA,JNYA,TRA;
11D31,MASARAM GONDI VOWEL SIGN ,AA,I,II,U,UU,VOCALIC R,,,,E,,AI,O,,AU;
11D40,MASARAM GONDI ,SIGN ANUSVARA,SIGN VISARGA,SIGN NUKTA,SIGN CANDRA,SIGN HALANTA,VIRAMA,REPHA,
RA-KARA;
11D50,MASARAM GONDI DIGIT ,ZERO,ONE,TWO,THREE,FOUR,FIVE,SIX,SEVEN,EIGHT,NINE;
11D60,GUNJALA GONDI LETTER ,A,AA,I,II,U,UU,,EE,AI,,OO,AU,YA,VA,BA,BHA,MA,KA,KHA,TA,THA,LA,GA,GHA,
DA,DHA,NA,CA,CHA,TTA,TTHA,LLA,JA,JHA,DDA,DDHA,NGA,PA,PHA,HA,RA,SA;
11D8A,GUNJALA GONDI VOWEL SIGN ,AA,I,II,U,UU,,EE,AI,,OO,AU;
11D95,GUNJALA GONDI ,SIGN ANUSVARA,SIGN VISARGA,VIRAMA,OM;
11DA0,GUNJALA GONDI DIGIT ,ZERO,ONE,TWO,THREE,FOUR,FIVE,SIX,SEVEN,EIGHT,NINE;
11EE0,MAKASAR LETTER ,KA,GA,NGA,PA,BA,MA,TA,DA,NA,CA,JA,NYA,YA,RA,LA,VA,SA,A;
11EF2,MAKASAR ,ANGKA,VOWEL SIGN I,VOWEL SIGN U,VOWEL SIGN E,VOWEL SIGN O,PASSIMBANG,
END OF SECTION;
11FB0,,LISU LETTER YHA;
11FC0,TAMIL FRACTION ,ONE THREE-HUNDRED-AND-TWENTIETH,ONE ONE-HUNDRED-AND-SIXTIETH,ONE EIGHTIETH,
ONE SIXTY-FOURTH,ONE FORTIETH,ONE THIRTY-SECOND,THREE EIGHTIETHS,THREE SIXTY-FOURTHS,
ONE TWENTIETH,ONE SIXTEENTH-1,ONE SIXTEENTH-2,ONE TENTH,ONE EIGHTH,THREE TWENTIETHS,
THREE SIXTEENTHS,ONE FIFTH,ONE QUARTER,ONE HALF-1,ONE HALF-2,THREE QUARTERS,
DOWNSCALING FACTOR KIIZH;
11FD5,TAMIL SIGN ,NEL,CEVITU,AAZHAAKKU,UZHAKKU,MUUVUZHAKKU,KURUNI,PATHAKKU,MUKKURUNI,KAACU,PANAM,
PON,VARAAKAN,PAARAM,KUZHI,VELI;
11FE4,TAMIL ,WET CULTIVATION SIGN,DRY CULTIVATION SIGN,LAND SIGN,SALT PAN SIGN,
TRADITIONAL CREDIT SIGN,TRADITIONAL NUMBER SIGN,CURRENT SIGN,AND ODD SIGN,SPENT SIGN,TOTAL SIGN,
IN POSSESSION SIGN,STARTING FROM SIGN,SIGN MUTHALIYA,SIGN VAKAIYARAA;
11FFF,,TAMIL PUNCTUATION END OF TEXT"

end SasMigration.CharacterName
