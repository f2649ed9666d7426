namespace SasMigration.CharacterName

def phonetic : String := "
1D00,LATIN LETTER SMALL CAPITAL ,A,AE;
1D02,,LATIN SMALL LETTER TURNED AE;
1D03,LATIN LETTER SMALL CAPITAL ,BARRED B,C,D,ETH,E;
1D08,LATIN SMALL LETTER TURNED ,OPEN E,I;
1D0A,LATIN LETTER SMALL CAPITAL ,J,K,L WITH STROKE,M,REVERSED N,O,OPEN O;
1D11,LATIN SMALL LETTER SIDEWAYS ,O,OPEN O,O WITH STROKE;
1D14,LATIN ,SMALL LETTER TURNED OE,LETTER SMALL CAPITAL OU,SMALL LETTER TOP HALF O,
SMALL LETTER BOTTOM HALF O;
1D18,LATIN LETTER SMALL CAPITAL ,P,REVERSED R,TURNED R,T,U;
1D1D,LATIN SMALL LETTER SIDEWAYS ,U,DIAERESIZED U,TURNED M;
1D20,LATIN LETTER SMALL CAPITAL ,V,W,Z,EZH;
1D24,LATIN LETTER ,VOICED LARYNGEAL SPIRANT,AIN;
1D26,GREEK LETTER SMALL CAPITAL ,GAMMA,LAMDA,PI,RHO,PSI;
1D2B,,CYRILLIC LETTER SMALL CAPITAL EL;
1D2C,MODIFIER LETTER CAPITAL ,A,AE,B,BARRED B,D,E,REVERSED E,G,H,I,J,K,L,M,N,REVERSED N,O,OU,P,R,
T,U,W;
1D43,MODIFIER LETTER SMALL ,A,TURNED A,ALPHA,TURNED AE,B,D,E,SCHWA,OPEN E,TURNED OPEN E,G,
TURNED I,K,M,ENG,O,OPEN O,TOP HALF O,BOTTOM HALF O,P,T,U,SIDEWAYS U,TURNED M,V,AIN,BETA,
GREEK GAMMA,DELTA,GREEK PHI,CHI;
1D62,LATIN SUBSCRIPT SMALL LETTER ,I,R,U,V;
1D66,GREEK SUBSCRIPT SMALL LETTER ,BETA,GAMMA,RHO,PHI,CHI;
1D6B,LATIN SMALL LETTER ,UE,B WITH MIDDLE TILDE,D WITH MIDDLE TILDE,F WITH MIDDLE TILDE,
M WITH MIDDLE TILDE,N WITH MIDDLE TILDE,P WITH MIDDLE TILDE,R WITH MIDDLE TILDE,
R WITH FISHHOOK AND MIDDLE TILDE,S WITH MIDDLE TILDE,T WITH MIDDLE TILDE,Z WITH MIDDLE TILDE,
TURNED G;
1D78,,MODIFIER LETTER CYRILLIC EN;
1D79,LATIN SMALL ,LETTER INSULAR G,LETTER TH WITH STRIKETHROUGH,CAPITAL LETTER I WITH STROKE,
LETTER IOTA WITH STROKE,LETTER P WITH STROKE,CAPITAL LETTER U WITH STROKE;
1D7F,LATIN SMALL LETTER ,UPSILON WITH STROKE,B WITH PALATAL HOOK,D WITH PALATAL HOOK,
F WITH PALATAL HOOK,G WITH PALATAL HOOK,K WITH PALATAL HOOK,L WITH PALATAL HOOK,
M WITH PALATAL HOOK,N WITH PALATAL HOOK,P WITH PALATAL HOOK,R WITH PALATAL HOOK,
S WITH PALATAL HOOK,ESH WITH PALATAL HOOK,V WITH PALATAL HOOK,X WITH PALATAL HOOK,
Z WITH PALATAL HOOK,A WITH RETROFLEX HOOK,ALPHA WITH RETROFLEX HOOK,D WITH HOOK AND TAIL,
E WITH RETROFLEX HOOK,OPEN E WITH RETROFLEX HOOK,REVERSED OPEN E WITH RETROFLEX HOOK,
SCHWA WITH RETROFLEX HOOK,I WITH RETROFLEX HOOK,OPEN O WITH RETROFLEX HOOK,
ESH WITH RETROFLEX HOOK,U WITH RETROFLEX HOOK,EZH WITH RETROFLEX HOOK;
1D9B,MODIFIER LETTER SMALL ,TURNED ALPHA,C,C WITH CURL,ETH,REVERSED OPEN E,F,
DOTLESS J WITH STROKE,SCRIPT G,TURNED H,I WITH STROKE,IOTA,CAPITAL I,CAPITAL I WITH STROKE,
J WITH CROSSED-TAIL,L WITH RETROFLEX HOOK,L WITH PALATAL HOOK,CAPITAL L,M WITH HOOK,
TURNED M WITH LONG LEG,N WITH LEFT HOOK,N WITH RETROFLEX HOOK,CAPITAL N,BARRED O,PHI,S WITH HOOK,
ESH,T WITH PALATAL HOOK,U BAR,UPSILON,CAPITAL U,V WITH HOOK,TURNED V,Z,Z WITH RETROFLEX HOOK,
Z WITH CURL,EZH,THETA;
1DC0,COMBINING ,DOTTED GRAVE ACCENT,DOTTED ACUTE ACCENT,SNAKE BELOW,SUSPENSION MARK,MACRON-ACUTE,
GRAVE-MACRON,MACRON-GRAVE,ACUTE-MACRON,GRAVE-ACUTE-GRAVE,ACUTE-GRAVE-ACUTE,
LATIN SMALL LETTER R BELOW,BREVE-MACRON,MACRON-BREVE,DOUBLE CIRCUMFLEX ABOVE,OGONEK ABOVE,
ZIGZAG BELOW,IS BELOW,UR ABOVE,US ABOVE;
1DD3,COMBINING LATIN SMALL LETTER ,FLATTENED OPEN A ABOVE,AE,AO,AV,C CEDILLA,INSULAR D,ETH,G;
1DDB,COMBINING LATIN ,LETTER SMALL CAPITAL G,SMALL LETTER K,SMALL LETTER L,
LETTER SMALL CAPITAL L,LETTER SMALL CAPITAL M,SMALL LETTER N,LETTER SMALL CAPITAL N,
LETTER SMALL CAPITAL R;
1DE3,COMBINING LATIN SMALL LETTER ,R ROTUNDA,S,LONG S,Z,ALPHA,B,BETA,SCHWA,F,
L WITH DOUBLE MIDDLE TILDE,O WITH LIGHT CENTRALIZATION STROKE,P,ESH,
U WITH LIGHT CENTRALIZATION STROKE,W,A WITH DIAERESIS,O WITH DIAERESIS,U WITH DIAERESIS;
1DF5,COMBINING ,UP TACK ABOVE,KAVYKA ABOVE RIGHT,KAVYKA ABOVE LEFT,DOT ABOVE LEFT,
WIDE INVERTED BRIDGE BELOW,DOT BELOW LEFT,DELETION MARK,DOUBLE INVERTED BREVE BELOW,
ALMOST EQUAL TO BELOW,LEFT ARROWHEAD ABOVE,RIGHT ARROWHEAD AND DOWN ARROWHEAD BELOW;
1E00,LATIN ,CAPITAL LETTER A WITH RING BELOW,SMALL LETTER A WITH RING BELOW,
CAPITAL LETTER B WITH DOT ABOVE,SMALL LETTER B WITH DOT ABOVE,CAPITAL LETTER B WITH DOT BELOW,
SMALL LETTER B WITH DOT BELOW,CAPITAL LETTER B WITH LINE BELOW,SMALL LETTER B WITH LINE BELOW,
CAPITAL LETTER C WITH CEDILLA AND ACUTE,SMALL LETTER C WITH CEDILLA AND ACUTE,
CAPITAL LETTER D WITH DOT ABOVE,SMALL LETTER D WITH DOT ABOVE,CAPITAL LETTER D WITH DOT BELOW,
SMALL LETTER D WITH DOT BELOW,CAPITAL LETTER D WITH LINE BELOW,SMALL LETTER D WITH LINE BELOW,
CAPITAL LETTER D WITH CEDILLA,SMALL LETTER D WITH CEDILLA,CAPITAL LETTER D WITH CIRCUMFLEX BELOW,
SMALL LETTER D WITH CIRCUMFLEX BELOW,CAPITAL LETTER E WITH MACRON AND GRAVE,
SMALL LETTER E WITH MACRON AND GRAVE,CAPITAL LETTER E WITH MACRON AND ACUTE,
SMALL LETTER E WITH MACRON AND ACUTE,CAPITAL LETTER E WITH CIRCUMFLEX BELOW,
SMALL LETTER E WITH CIRCUMFLEX BELOW,CAPITAL LETTER E WITH TILDE BELOW,
SMALL LETTER E WITH TILDE BELOW,CAPITAL LETTER E WITH CEDILLA AND BREVE,
SMALL LETTER E WITH CEDILLA AND BREVE,CAPITAL LETTER F WITH DOT ABOVE,
SMALL LETTER F WITH DOT ABOVE,CAPITAL LETTER G WITH MACRON,SMALL LETTER G WITH MACRON,
CAPITAL LETTER H WITH DOT ABOVE,SMALL LETTER H WITH DOT ABOVE,CAPITAL LETTER H WITH DOT BELOW,
SMALL LETTER H WITH DOT BELOW,CAPITAL LETTER H WITH DIAERESIS,SMALL LETTER H WITH DIAERESIS,
CAPITAL LETTER H WITH CEDILLA,SMALL LETTER H WITH CEDILLA,CAPITAL LETTER H WITH BREVE BELOW,
SMALL LETTER H WITH BREVE BELOW,CAPITAL LETTER I WITH TILDE BELOW,
SMALL LETTER I WITH TILDE BELOW,CAPITAL LETTER I WITH DIAERESIS AND ACUTE,
SMALL LETTER I WITH DIAERESIS AND ACUTE,CAPITAL LETTER K WITH ACUTE,SMALL LETTER K WITH ACUTE,
CAPITAL LETTER K WITH DOT BELOW,SMALL LETTER K WITH DOT BELOW,CAPITAL LETTER K WITH LINE BELOW,
SMALL LETTER K WITH LINE BELOW,CAPITAL LETTER L WITH DOT BELOW,SMALL LETTER L WITH DOT BELOW,
CAPITAL LETTER L WITH DOT BELOW AND MACRON,SMALL LETTER L WITH DOT BELOW AND MACRON,
CAPITAL LETTER L WITH LINE BELOW,SMALL LETTER L WITH LINE BELOW,
CAPITAL LETTER L WITH CIRCUMFLEX BELOW,SMALL LETTER L WITH CIRCUMFLEX BELOW,
CAPITAL LETTER M WITH ACUTE,SMALL LETTER M WITH ACUTE,CAPITAL LETTER M WITH DOT ABOVE,
SMALL LETTER M WITH DOT ABOVE,CAPITAL LETTER M WITH DOT BELOW,SMALL LETTER M WITH DOT BELOW,
CAPITAL LETTER N WITH DOT ABOVE,SMALL LETTER N WITH DOT ABOVE,CAPITAL LETTER N WITH DOT BELOW,
SMALL LETTER N WITH DOT BELOW,CAPITAL LETTER N WITH LINE BELOW,SMALL LETTER N WITH LINE BELOW,
CAPITAL LETTER N WITH CIRCUMFLEX BELOW,SMALL LETTER N WITH CIRCUMFLEX BELOW,
CAPITAL LETTER O WITH TILDE AND ACUTE,SMALL LETTER O WITH TILDE AND ACUTE,
CAPITAL LETTER O WITH TILDE AND DIAERESIS,SMALL LETTER O WITH TILDE AND DIAERESIS,
CAPITAL LETTER O WITH MACRON AND GRAVE,SMALL LETTER O WITH MACRON AND GRAVE,
CAPITAL LETTER O WITH MACRON AND ACUTE,SMALL LETTER O WITH MACRON AND ACUTE,
CAPITAL LETTER P WITH ACUTE,SMALL LETTER P WITH ACUTE,CAPITAL LETTER P WITH DOT ABOVE,
SMALL LETTER P WITH DOT ABOVE,CAPITAL LETTER R WITH DOT ABOVE,SMALL LETTER R WITH DOT ABOVE,
CAPITAL LETTER R WITH DOT BELOW,SMALL LETTER R WITH DOT BELOW,
CAPITAL LETTER R WITH DOT BELOW AND MACRON,SMALL LETTER R WITH DOT BELOW AND MACRON,
CAPITAL LETTER R WITH LINE BELOW,SMALL LETTER R WITH LINE BELOW,CAPITAL LETTER S WITH DOT ABOVE,
SMALL LETTER S WITH DOT ABOVE,CAPITAL LETTER S WITH DOT BELOW,SMALL LETTER S WITH DOT BELOW,
CAPITAL LETTER S WITH ACUTE AND DOT ABOVE,SMALL LETTER S WITH ACUTE AND DOT ABOVE,
CAPITAL LETTER S WITH CARON AND DOT ABOVE,SMALL LETTER S WITH CARON AND DOT ABOVE,
CAPITAL LETTER S WITH DOT BELOW AND DOT ABOVE,SMALL LETTER S WITH DOT BELOW AND DOT ABOVE,
CAPITAL LETTER T WITH DOT ABOVE,SMALL LETTER T WITH DOT ABOVE,CAPITAL LETTER T WITH DOT BELOW,
SMALL LETTER T WITH DOT BELOW,CAPITAL LETTER T WITH LINE BELOW,SMALL LETTER T WITH LINE BELOW,
CAPITAL LETTER T WITH CIRCUMFLEX BELOW,SMALL LETTER T WITH CIRCUMFLEX BELOW,
CAPITAL LETTER U WITH DIAERESIS BELOW,SMALL LETTER U WITH DIAERESIS BELOW,
CAPITAL LETTER U WITH TILDE BELOW,SMALL LETTER U WITH TILDE BELOW,
CAPITAL LETTER U WITH CIRCUMFLEX BELOW,SMALL LETTER U WITH CIRCUMFLEX BELOW,
CAPITAL LETTER U WITH TILDE AND ACUTE,SMALL LETTER U WITH TILDE AND ACUTE,
CAPITAL LETTER U WITH MACRON AND DIAERESIS,SMALL LETTER U WITH MACRON AND DIAERESIS,
CAPITAL LETTER V WITH TILDE,SMALL LETTER V WITH TILDE,CAPITAL LETTER V WITH DOT BELOW,
SMALL LETTER V WITH DOT BELOW,CAPITAL LETTER W WITH GRAVE,SMALL LETTER W WITH GRAVE,
CAPITAL LETTER W WITH ACUTE,SMALL LETTER W WITH ACUTE,CAPITAL LETTER W WITH DIAERESIS,
SMALL LETTER W WITH DIAERESIS,CAPITAL LETTER W WITH DOT ABOVE,SMALL LETTER W WITH DOT ABOVE,
CAPITAL LETTER W WITH DOT BELOW,SMALL LETTER W WITH DOT BELOW,CAPITAL LETTER X WITH DOT ABOVE,
SMALL LETTER X WITH DOT ABOVE,CAPITAL LETTER X WITH DIAERESIS,SMALL LETTER X WITH DIAERESIS,
CAPITAL LETTER Y WITH DOT ABOVE,SMALL LETTER Y WITH DOT ABOVE,CAPITAL LETTER Z WITH CIRCUMFLEX,
SMALL LETTER Z WITH CIRCUMFLEX,CAPITAL LETTER Z WITH DOT BELOW,SMALL LETTER Z WITH DOT BELOW,
CAPITAL LETTER Z WITH LINE BELOW;
1E95,LATIN SMALL LETTER ,Z WITH LINE BELOW,H WITH LINE BELOW,T WITH DIAERESIS,W WITH RING ABOVE,
Y WITH RING ABOVE,A WITH RIGHT HALF RING,LONG S WITH DOT ABOVE,LONG S WITH DIAGONAL STROKE,
LONG S WITH HIGH STROKE;
1E9E,LATIN ,CAPITAL LETTER SHARP S,SMALL LETTER DELTA,CAPITAL LETTER A WITH DOT BELOW,
SMALL LETTER A WITH DOT BELOW,CAPITAL LETTER A WITH HOOK ABOVE,SMALL LETTER A WITH HOOK ABOVE,
CAPITAL LETTER A WITH CIRCUMFLEX AND ACUTE,SMALL LETTER A WITH CIRCUMFLEX AND ACUTE,
CAPITAL LETTER A WITH CIRCUMFLEX AND GRAVE,SMALL LETTER A WITH CIRCUMFLEX AND GRAVE,
CAPITAL LETTER A WITH CIRCUMFLEX AND HOOK ABOVE,SMALL LETTER A WITH CIRCUMFLEX AND HOOK ABOVE,
CAPITAL LETTER A WITH CIRCUMFLEX AND TILDE,SMALL LETTER A WITH CIRCUMFLEX AND TILDE,
CAPITAL LETTER A WITH CIRCUMFLEX AND DOT BELOW,SMALL LETTER A WITH CIRCUMFLEX AND DOT BELOW,
CAPITAL LETTER A WITH BREVE AND ACUTE,SMALL LETTER A WITH BREVE AND ACUTE,
CAPITAL LETTER A WITH BREVE AND GRAVE,SMALL LETTER A WITH BREVE AND GRAVE,
CAPITAL LETTER A WITH BREVE AND HOOK ABOVE,SMALL LETTER A WITH BREVE AND HOOK ABOVE,
CAPITAL LETTER A WITH BREVE AND TILDE,SMALL LETTER A WITH BREVE AND TILDE,
CAPITAL LETTER A WITH BREVE AND DOT BELOW,SMALL LETTER A WITH BREVE AND DOT BELOW,
CAPITAL LETTER E WITH DOT BELOW,SMALL LETTER E WITH DOT BELOW,CAPITAL LETTER E WITH HOOK ABOVE,
SMALL LETTER E WITH HOOK ABOVE,CAPITAL LETTER E WITH TILDE,SMALL LETTER E WITH TILDE,
CAPITAL LETTER E WITH CIRCUMFLEX AND ACUTE,SMALL LETTER E WITH CIRCUMFLEX AND ACUTE,
CAPITAL LETTER E WITH CIRCUMFLEX AND GRAVE,SMALL LETTER E WITH CIRCUMFLEX AND GRAVE,
CAPITAL LETTER E WITH CIRCUMFLEX AND HOOK ABOVE,SMALL LETTER E WITH CIRCUMFLEX AND HOOK ABOVE,
CAPITAL LETTER E WITH CIRCUMFLEX AND TILDE,SMALL LETTER E WITH CIRCUMFLEX AND TILDE,
CAPITAL LETTER E WITH CIRCUMFLEX AND DOT BELOW,SMALL LETTER E WITH CIRCUMFLEX AND DOT BELOW,
CAPITAL LETTER I WITH HOOK ABOVE,SMALL LETTER I WITH HOOK ABOVE,CAPITAL LETTER I WITH DOT BELOW,
SMALL LETTER I WITH DOT BELOW,CAPITAL LETTER O WITH DOT BELOW,SMALL LETTER O WITH DOT BELOW,
CAPITAL LETTER O WITH HOOK ABOVE,SMALL LETTER O WITH HOOK ABOVE,
CAPITAL LETTER O WITH CIRCUMFLEX AND ACUTE,SMALL LETTER O WITH CIRCUMFLEX AND ACUTE,
CAPITAL LETTER O WITH CIRCUMFLEX AND GRAVE,SMALL LETTER O WITH CIRCUMFLEX AND GRAVE,
CAPITAL LETTER O WITH CIRCUMFLEX AND HOOK ABOVE,SMALL LETTER O WITH CIRCUMFLEX AND HOOK ABOVE,
CAPITAL LETTER O WITH CIRCUMFLEX AND TILDE,SMALL LETTER O WITH CIRCUMFLEX AND TILDE,
CAPITAL LETTER O WITH CIRCUMFLEX AND DOT BELOW,SMALL LETTER O WITH CIRCUMFLEX AND DOT BELOW,
CAPITAL LETTER O WITH HORN AND ACUTE,SMALL LETTER O WITH HORN AND ACUTE,
CAPITAL LETTER O WITH HORN AND GRAVE,SMALL LETTER O WITH HORN AND GRAVE,
CAPITAL LETTER O WITH HORN AND HOOK ABOVE,SMALL LETTER O WITH HORN AND HOOK ABOVE,
CAPITAL LETTER O WITH HORN AND TILDE,SMALL LETTER O WITH HORN AND TILDE,
CAPITAL LETTER O WITH HORN AND DOT BELOW,SMALL LETTER O WITH HORN AND DOT BELOW,
CAPITAL LETTER U WITH DOT BELOW,SMALL LETTER U WITH DOT BELOW,CAPITAL LETTER U WITH HOOK ABOVE,
SMALL LETTER U WITH HOOK ABOVE,CAPITAL LETTER U WITH HORN AND ACUTE,
SMALL LETTER U WITH HORN AND ACUTE,CAPITAL LETTER U WITH HORN AND GRAVE,
SMALL LETTER U WITH HORN AND GRAVE,CAPITAL LETTER U WITH HORN AND HOOK ABOVE,
SMALL LETTER U WITH HORN AND HOOK ABOVE,CAPITAL LETTER U WITH HORN AND TILDE,
SMALL LETTER U WITH HORN AND TILDE,CAPITAL LETTER U WITH HORN AND DOT BELOW,
SMALL LETTER U WITH HORN AND DOT BELOW,CAPITAL LETTER Y WITH GRAVE,SMALL LETTER Y WITH GRAVE,
CAPITAL LETTER Y WITH DOT BELOW,SMALL LETTER Y WITH DOT BELOW,CAPITAL LETTER Y WITH HOOK ABOVE,
SMALL LETTER Y WITH HOOK ABOVE,CAPITAL LETTER Y WITH TILDE,SMALL LETTER Y WITH TILDE,
CAPITAL LETTER MIDDLE-WELSH LL,SMALL LETTER MIDDLE-WELSH LL,CAPITAL LETTER MIDDLE-WELSH V,
SMALL LETTER MIDDLE-WELSH V,CAPITAL LETTER Y WITH LOOP,SMALL LETTER Y WITH LOOP;
1F00,GREEK SMALL LETTER ALPHA WITH ,PSILI,DASIA,PSILI AND VARIA,DASIA AND VARIA,PSILI AND OXIA,
DASIA AND OXIA,PSILI AND PERISPOMENI,DASIA AND PERISPOMENI;
1F08,GREEK CAPITAL LETTER ALPHA WITH ,PSILI,DASIA,PSILI AND VARIA,DASIA AND VARIA,PSILI AND OXIA,
DASIA AND OXIA,PSILI AND PERISPOMENI,DASIA AND PERISPOMENI;
1F10,GREEK SMALL LETTER EPSILON WITH ,PSILI,DASIA,PSILI AND VARIA,DASIA AND VARIA,PSILI AND OXIA,
DASIA AND OXIA;
1F18,GREEK CAPITAL LETTER EPSILON WITH ,PSILI,DASIA,PSILI AND VARIA,DASIA AND VARIA,
PSILI AND OXIA,DASIA AND OXIA;
1F20,GREEK SMALL LETTER ETA WITH ,PSILI,DASIA,PSILI AND VARIA,DASIA AND VARIA,PSILI AND OXIA,
DASIA AND OXIA,PSILI AND PERISPOMENI,DASIA AND PERISPOMENI;
1F28,GREEK CAPITAL LETTER ETA WITH ,PSILI,DASIA,PSILI AND VARIA,DASIA AND VARIA,PSILI AND OXIA,
DASIA AND OXIA,PSILI AND PERISPOMENI,DASIA AND PERISPOMENI;
1F30,GREEK SMALL LETTER IOTA WITH ,PSILI,DASIA,PSILI AND VARIA,DASIA AND VARIA,PSILI AND OXIA,
DASIA AND OXIA,PSILI AND PERISPOMENI,DASIA AND PERISPOMENI;
1F38,GREEK CAPITAL LETTER IOTA WITH ,PSILI,DASIA,PSILI AND VARIA,DASIA AND VARIA,PSILI AND OXIA,
DASIA AND OXIA,PSILI AND PERISPOMENI,DASIA AND PERISPOMENI;
1F40,GREEK SMALL LETTER OMICRON WITH ,PSILI,DASIA,PSILI AND VARIA,DASIA AND VARIA,PSILI AND OXIA,
DASIA AND OXIA;
1F48,GREEK CAPITAL LETTER OMICRON WITH ,PSILI,DASIA,PSILI AND VARIA,DASIA AND VARIA,
PSILI AND OXIA,DASIA AND OXIA;
1F50,GREEK SMALL LETTER UPSILON WITH ,PSILI,DASIA,PSILI AND VARIA,DASIA AND VARIA,PSILI AND OXIA,
DASIA AND OXIA,PSILI AND PERISPOMENI,DASIA AND PERISPOMENI;
1F59,GREEK CAPITAL LETTER UPSILON WITH ,DASIA,,DASIA AND VARIA,,DASIA AND OXIA,,
DASIA AND PERISPOMENI;
1F60,GREEK SMALL LETTER OMEGA WITH ,PSILI,DASIA,PSILI AND VARIA,DASIA AND VARIA,PSILI AND OXIA,
DASIA AND OXIA,PSILI AND PERISPOMENI,DASIA AND PERISPOMENI;
1F68,GREEK CAPITAL LETTER OMEGA WITH ,PSILI,DASIA,PSILI AND VARIA,DASIA AND VARIA,PSILI AND OXIA,
DASIA AND OXIA,PSILI AND PERISPOMENI,DASIA AND PERISPOMENI;
1F70,GREEK SMALL LETTER ,ALPHA WITH VARIA,ALPHA WITH OXIA,EPSILON WITH VARIA,EPSILON WITH OXIA,
ETA WITH VARIA,ETA WITH OXIA,IOTA WITH VARIA,IOTA WITH OXIA,OMICRON WITH VARIA,OMICRON WITH OXIA,
UPSILON WITH VARIA,UPSILON WITH OXIA,OMEGA WITH VARIA,OMEGA WITH OXIA;
1F80,GREEK SMALL LETTER ALPHA WITH ,PSILI AND YPOGEGRAMMENI,DASIA AND YPOGEGRAMMENI,
PSILI AND VARIA AND YPOGEGRAMMENI,DASIA AND VARIA AND YPOGEGRAMMENI,
PSILI AND OXIA AND YPOGEGRAMMENI,DASIA AND OXIA AND YPOGEGRAMMENI,
PSILI AND PERISPOMENI AND YPOGEGRAMMENI,DASIA AND PERISPOMENI AND YPOGEGRAMMENI;
1F88,GREEK CAPITAL LETTER ALPHA WITH ,PSILI AND PROSGEGRAMMENI,DASIA AND PROSGEGRAMMENI,
PSILI AND VARIA AND PROSGEGRAMMENI,DASIA AND VARIA AND PROSGEGRAMMENI,
PSILI AND OXIA AND PROSGEGRAMMENI,DASIA AND OXIA AND PROSGEGRAMMENI,
PSILI AND PERISPOMENI AND PROSGEGRAMMENI,DASIA AND PERISPOMENI AND PROSGEGRAMMENI;
1F90,GREEK SMALL LETTER ETA WITH ,PSILI AND YPOGEGRAMMENI,DASIA AND YPOGEGRAMMENI,
PSILI AND VARIA AND YPOGEGRAMMENI,DASIA AND VARIA AND YPOGEGRAMMENI,
PSILI AND OXIA AND YPOGEGRAMMENI,DASIA AND OXIA AND YPOGEGRAMMENI,
PSILI AND PERISPOMENI AND YPOGEGRAMMENI,DASIA AND PERISPOMENI AND YPOGEGRAMMENI;
1F98,GREEK CAPITAL LETTER ETA WITH ,PSILI AND PROSGEGRAMMENI,DASIA AND PROSGEGRAMMENI,
PSILI AND VARIA AND PROSGEGRAMMENI,DASIA AND VARIA AND PROSGEGRAMMENI,
PSILI AND OXIA AND PROSGEGRAMMENI,DASIA AND OXIA AND PROSGEGRAMMENI,
PSILI AND PERISPOMENI AND PROSGEGRAMMENI,DASIA AND PERISPOMENI AND PROSGEGRAMMENI;
1FA0,GREEK SMALL LETTER OMEGA WITH ,PSILI AND YPOGEGRAMMENI,DASIA AND YPOGEGRAMMENI,
PSILI AND VARIA AND YPOGEGRAMMENI,DASIA AND VARIA AND YPOGEGRAMMENI,
PSILI AND OXIA AND YPOGEGRAMMENI,DASIA AND OXIA AND YPOGEGRAMMENI,
PSILI AND PERISPOMENI AND YPOGEGRAMMENI,DASIA AND PERISPOMENI AND YPOGEGRAMMENI;
1FA8,GREEK CAPITAL LETTER OMEGA WITH ,PSILI AND PROSGEGRAMMENI,DASIA AND PROSGEGRAMMENI,
PSILI AND VARIA AND PROSGEGRAMMENI,DASIA AND VARIA AND PROSGEGRAMMENI,
PSILI AND OXIA AND PROSGEGRAMMENI,DASIA AND OXIA AND PROSGEGRAMMENI,
PSILI AND PERISPOMENI AND PROSGEGRAMMENI,DASIA AND PERISPOMENI AND PROSGEGRAMMENI;
1FB0,GREEK SMALL LETTER ALPHA WITH ,VRACHY,MACRON,VARIA AND YPOGEGRAMMENI,YPOGEGRAMMENI,
OXIA AND YPOGEGRAMMENI,,PERISPOMENI,PERISPOMENI AND YPOGEGRAMMENI;
1FB8,GREEK CAPITAL LETTER ALPHA WITH ,VRACHY,MACRON,VARIA,OXIA,PROSGEGRAMMENI;
1FBD,GREEK ,KORONIS,PROSGEGRAMMENI,PSILI,PERISPOMENI,DIALYTIKA AND PERISPOMENI;
1FC2,GREEK SMALL LETTER ETA WITH ,VARIA AND YPOGEGRAMMENI,YPOGEGRAMMENI,OXIA AND YPOGEGRAMMENI,,
PERISPOMENI,PERISPOMENI AND YPOGEGRAMMENI;
1FC8,GREEK CAPITAL LETTER EPSILON WITH ,VARIA,OXIA;
1FCA,GREEK CAPITAL LETTER ETA WITH ,VARIA,OXIA,PROSGEGRAMMENI;
1FCD,GREEK PSILI AND ,VARIA,OXIA,PERISPOMENI;
1FD0,GREEK SMALL LETTER IOTA WITH ,VRACHY,MACRON,DIALYTIKA AND VARIA,DIALYTIKA AND OXIA,,,
PERISPOMENI,DIALYTIKA AND PERISPOMENI;
1FD8,GREEK CAPITAL LETTER IOTA WITH ,VRACHY,MACRON,VARIA,OXIA;
1FDD,GREEK DASIA AND ,VARIA,OXIA,PERISPOMENI;
1FE0,GREEK SMALL LETTER UPSILON WITH ,VRACHY,MACRON,DIALYTIKA AND VARIA,DIALYTIKA AND OXIA;
1FE4,GREEK SMALL LETTER ,RHO WITH PSILI,RHO WITH DASIA,UPSILON WITH PERISPOMENI,
UPSILON WITH DIALYTIKA AND PERISPOMENI;
1FE8,GREEK CAPITAL LETTER UPSILON WITH ,VRACHY,MACRON,VARIA,OXIA;
1FEC,GREEK ,CAPITAL LETTER RHO WITH DASIA,DIALYTIKA AND VARIA,DIALYTIKA AND OXIA,VARIA;
1FF2,GREEK SMALL LETTER OMEGA WITH ,VARIA AND YPOGEGRAMMENI,YPOGEGRAMMENI,OXIA AND YPOGEGRAMMENI,
,PERISPOMENI,PERISPOMENI AND YPOGEGRAMMENI;
1FF8,GREEK CAPITAL LETTER OMICRON WITH ,VARIA,OXIA;
1FFA,GREEK CAPITAL LETTER OMEGA WITH ,VARIA,OXIA,PROSGEGRAMMENI;
1FFD,GREEK ,OXIA,DASIA"

end SasMigration.CharacterName
