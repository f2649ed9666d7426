namespace SasMigration.CharacterName

def musical : String := "
1CF00,ZNAMENNY COMBINING MARK ,GORAZDO NIZKO S KRYZHEM ON LEFT,NIZKO S KRYZHEM ON LEFT,
TSATA ON LEFT,GORAZDO NIZKO ON LEFT,NIZKO ON LEFT,SREDNE ON LEFT,MALO POVYSHE ON LEFT,
POVYSHE ON LEFT,VYSOKO ON LEFT,MALO POVYSHE S KHOKHLOM ON LEFT,POVYSHE S KHOKHLOM ON LEFT,
VYSOKO S KHOKHLOM ON LEFT,GORAZDO NIZKO S KRYZHEM ON RIGHT,NIZKO S KRYZHEM ON RIGHT,
TSATA ON RIGHT,GORAZDO NIZKO ON RIGHT,NIZKO ON RIGHT,SREDNE ON RIGHT,MALO POVYSHE ON RIGHT,
POVYSHE ON RIGHT,VYSOKO ON RIGHT,MALO POVYSHE S KHOKHLOM ON RIGHT,POVYSHE S KHOKHLOM ON RIGHT,
VYSOKO S KHOKHLOM ON RIGHT,TSATA S KRYZHEM,MALO POVYSHE S KRYZHEM,STRANNO MALO POVYSHE,
POVYSHE S KRYZHEM,POVYSHE STRANNO,VYSOKO S KRYZHEM,MALO POVYSHE STRANNO,GORAZDO VYSOKO,ZELO,ON,
RAVNO,TIKHAYA,BORZAYA,UDARKA,PODVERTKA,LOMKA,KUPNAYA,KACHKA,ZEVOK,SKOBA,RAZSEKA,KRYZH ON LEFT;
1CF30,ZNAMENNY COMBINING TONAL RANGE MARK ,MRACHNO,SVETLO,TRESVETLO;
1CF33,ZNAMENNY COMBINING MARK ,ZADERZHKA,DEMESTVENNY ZADERZHKA,OTSECHKA,PODCHASHIE,
PODCHASHIE WITH VERTICAL STROKE,CHASHKA,CHASHKA POLNAYA,OBLACHKO,SOROCHYA NOZHKA,TOCHKA,
DVOETOCHIE;
1CF3E,ZNAMENNY COMBINING ,ATTACHING VERTICAL OMET,MARK CURVED OMET,MARK KRYZH,
LOWER TONAL RANGE INDICATOR;
1CF42,ZNAMENNY PRIZNAK MODIFIER ,LEVEL-2,LEVEL-3,DIRECTION FLIP,KRYZH,ROG;
1CF50,ZNAMENNY NEUME ,KRYUK,KRYUK TIKHY,PARAKLIT,DVA V CHELNU,KLYUCH,ZANOZHEK,STOPITSA,
STOPITSA S OCHKOM,PEREVODKA,PEREVODKA NEPOSTOYANNAYA,STOPITSA WITH SOROCHYA NOZHKA,CHELYUSTKA,
PALKA,ZAPYATAYA;
1CF5E,ZNAMENNY NEUME GOLUBCHIK ,BORZY,TIKHY,MRACHNY,SVETLY,TRESVETLY;
1CF63,ZNAMENNY NEUME VRAKHIYA ,PROSTAYA,MRACHNAYA,SVETLAYA,TRESVETLAYA;
1CF67,ZNAMENNY NEUME VRAKHIYA KLYUCHEVAYA ,PROSTAYA,MRACHNAYA,SVETLAYA,TRESVETLAYA;
1CF6B,ZNAMENNY NEUME ,DOUBLE ZAPYATAYA,REVERSED CHELYUSTKA,DERBITSA,KHAMILO,CHASHKA,PODCHASHIE,
SKAMEYTSA MRACHNAYA,SKAMEYTSA SVETLAYA,SKAMEYTSA TRESVETLAYA,SKAMEYTSA TIKHAYA,
DEMESTVENNY KLYUCH,SKAMEYTSA KLYUCHEVAYA SVETLAYA,SKAMEYTSA KLYUCHENEPOSTOYANNAYA,
SKAMEYTSA KLYUCHEVAYA TIKHAYA;
1CF79,ZNAMENNY NEUME SKAMEYTSA DVOECHELNAYA ,PROSTAYA,SVETLAYA,NEPOSTOYANNAYA,KLYUCHEVAYA;
1CF7D,ZNAMENNY NEUME ,SLOZHITIE,SLOZHITIE S ZAPYATOY,SLOZHITIE ZAKRYTOE,SLOZHITIE S KRYZHEM,
KRYZH,ROG,FITA,KOBYLA,ZMEYTSA,STATYA;
1CF87,ZNAMENNY NEUME STATYA ,S ZAPYATOY,S KRYZHEM,S ZAPYATOY I KRYZHEM,S KRYZHEM I ZAPYATOY,
ZAKRYTAYA,ZAKRYTAYA S ZAPYATOY,S ROGOM,S DVUMYA ZAPYATYMI,S ZAPYATOY I PODCHASHIEM;
1CF90,ZNAMENNY NEUME ,POLKULIZMY,STATYA NEPOSTOYANNAYA;
1CF92,ZNAMENNY NEUME STRELA ,PROSTAYA,MRACHNOTIKHAYA,KRYZHEVAYA,POLUPOVODNAYA,POVODNAYA,
NEPOSTOYANNAYA,KLYUCHEPOVODNAYA,KLYUCHENEPOSTOYANNAYA,TIKHAYA PUTNAYA,DVOECHELNAYA,
DVOECHELNOKRYZHEVAYA,DVOECHELNOPOVODNAYA,DVOECHELNAYA KLYUCHEVAYA,
DVOECHELNOPOVODNAYA KLYUCHEVAYA,GROMNAYA WITH SINGLE ZAPYATAYA,
GROMOPOVODNAYA WITH SINGLE ZAPYATAYA,GROMNAYA,GROMOPOVODNAYA,
GROMOPOVODNAYA WITH DOUBLE ZAPYATAYA,GROMOKRYZHEVAYA,GROMOKRYZHEVAYA POVODNAYA;
1CFA7,ZNAMENNY NEUME ,MECHIK,MECHIK POVODNY,MECHIK KLYUCHEVOY,MECHIK KLYUCHEPOVODNY,
MECHIK KLYUCHENEPOSTOYANNY,STRELA TRYASOGLASNAYA,STRELA TRYASOPOVODNAYA,STRELA TRYASOSTRELNAYA,
OSOKA,OSOKA SVETLAYA,OSOKA TRESVETLAYA,OSOKA KRYUKOVAYA SVETLAYA,OSOKA KLYUCHEVAYA SVETLAYA,
OSOKA KLYUCHEVAYA NEPOSTOYANNAYA,STRELA KRYUKOVAYA;
1CFB6,ZNAMENNY NEUME STRELA KRYUKOVAYA ,POVODNAYA,GROMNAYA WITH SINGLE ZAPYATAYA,
GROMOPOVODNAYA WITH SINGLE ZAPYATAYA,GROMNAYA,GROMOPOVODNAYA,
GROMOPOVODNAYA WITH DOUBLE ZAPYATAYA,GROMOKRYZHEVAYA,GROMOKRYZHEVAYA POVODNAYA,TRYASKA;
1CFBF,ZNAMENNY NEUME ,KUFISMA,OBLAKO,DUDA,NEMKA,PAUK;
1D000,BYZANTINE MUSICAL SYMBOL ,PSILI,DASEIA,PERISPOMENI,OXEIA EKFONITIKON,OXEIA DIPLI,
VAREIA EKFONITIKON,VAREIA DIPLI,KATHISTI,SYRMATIKI,PARAKLITIKI,YPOKRISIS,YPOKRISIS DIPLI,
KREMASTI,APESO EKFONITIKON,EXO EKFONITIKON,TELEIA,KENTIMATA,APOSTROFOS,APOSTROFOS DIPLI,SYNEVMA,
THITA,OLIGON ARCHAION,GORGON ARCHAION,PSILON,CHAMILON,VATHY,ISON ARCHAION,KENTIMA ARCHAION,
KENTIMATA ARCHAION,SAXIMATA,PARICHON,STAVROS APODEXIA,OXEIAI ARCHAION,VAREIAI ARCHAION,
APODERMA ARCHAION,APOTHEMA,KLASMA,REVMA,PIASMA ARCHAION,TINAGMA,ANATRICHISMA,SEISMA,
SYNAGMA ARCHAION,SYNAGMA META STAVROU,OYRANISMA ARCHAION,THEMA,LEMOI,DYO,TRIA,TESSERA,KRATIMATA,
APESO EXO NEO,FTHORA ARCHAION,IMIFTHORA,TROMIKON ARCHAION,KATAVA TROMIKON,PELASTON,PSIFISTON,
KONTEVMA,CHOREVMA ARCHAION,RAPISMA,PARAKALESMA ARCHAION,PARAKLITIKI ARCHAION,ICHADIN,NANA,
PETASMA,KONTEVMA ALLO,TROMIKON ALLO,STRAGGISMATA,GRONTHISMATA,ISON NEO,OLIGON NEO,OXEIA NEO,
PETASTI,KOUFISMA,PETASTOKOUFISMA,KRATIMOKOUFISMA,PELASTON NEO,KENTIMATA NEO ANO,KENTIMA NEO ANO,
YPSILI,APOSTROFOS NEO,APOSTROFOI SYNDESMOS NEO,YPORROI,KRATIMOYPORROON,ELAFRON,CHAMILI,
MIKRON ISON,VAREIA NEO,PIASMA NEO,PSIFISTON NEO,OMALON,ANTIKENOMA,LYGISMA,PARAKLITIKI NEO,
PARAKALESMA NEO,ETERON PARAKALESMA,KYLISMA,ANTIKENOKYLISMA,TROMIKON NEO,EKSTREPTON,SYNAGMA NEO,
SYRMA,CHOREVMA NEO,EPEGERMA,SEISMA NEO,XIRON KLASMA,TROMIKOPSIFISTON,PSIFISTOLYGISMA,
TROMIKOLYGISMA,TROMIKOPARAKALESMA,PSIFISTOPARAKALESMA,TROMIKOSYNAGMA,PSIFISTOSYNAGMA,
GORGOSYNTHETON,ARGOSYNTHETON,ETERON ARGOSYNTHETON,OYRANISMA NEO,THEMATISMOS ESO,THEMATISMOS EXO,
THEMA APLOUN,THES KAI APOTHES,KATAVASMA,ENDOFONON,YFEN KATO,YFEN ANO,STAVROS,KLASMA ANO,
DIPLI ARCHAION,KRATIMA ARCHAION,KRATIMA ALLO,KRATIMA NEO,APODERMA NEO,APLI,DIPLI,TRIPLI,TETRAPLI,
KORONIS,LEIMMA ENOS CHRONOU,LEIMMA DYO CHRONON,LEIMMA TRION CHRONON,LEIMMA TESSARON CHRONON,
LEIMMA IMISEOS CHRONOU,GORGON NEO ANO,GORGON PARESTIGMENON ARISTERA,GORGON PARESTIGMENON DEXIA,
DIGORGON,DIGORGON PARESTIGMENON ARISTERA KATO,DIGORGON PARESTIGMENON ARISTERA ANO,
DIGORGON PARESTIGMENON DEXIA,TRIGORGON,ARGON,IMIDIARGON,DIARGON;
1D09A,BYZANTINE MUSICAL SYMBOL AGOGI ,POLI ARGI,ARGOTERI,ARGI,METRIA,MESI,GORGI,GORGOTERI,
POLI GORGI;
1D0A2,BYZANTINE MUSICAL SYMBOL MARTYRIA ,PROTOS ICHOS,ALLI PROTOS ICHOS,DEYTEROS ICHOS,
ALLI DEYTEROS ICHOS,TRITOS ICHOS,TRIFONIAS,TETARTOS ICHOS,TETARTOS LEGETOS ICHOS,LEGETOS ICHOS,
PLAGIOS ICHOS;
1D0AC,BYZANTINE MUSICAL SYMBOL ,ISAKIA TELOUS ICHIMATOS,APOSTROFOI TELOUS ICHIMATOS,
FANEROSIS TETRAFONIAS,FANEROSIS MONOFONIAS,FANEROSIS DIFONIAS,MARTYRIA VARYS ICHOS,
MARTYRIA PROTOVARYS ICHOS,MARTYRIA PLAGIOS TETARTOS ICHOS,GORTHMIKON N APLOUN,
GORTHMIKON N DIPLOUN,ENARXIS KAI FTHORA VOU,IMIFONON,IMIFTHORON;
1D0B9,BYZANTINE MUSICAL SYMBOL FTHORA ,ARCHAION DEYTEROU ICHOU,DIATONIKI PA,DIATONIKI NANA,
NAOS ICHOS,DIATONIKI DI,SKLIRON DIATONON DI,DIATONIKI KE,DIATONIKI ZO,DIATONIKI NI KATO,
DIATONIKI NI ANO,MALAKON CHROMA DIFONIAS,MALAKON CHROMA MONOFONIAS;
1D0C5,BYZANTINE MUSICAL SYMBOL ,FHTORA SKLIRON CHROMA VASIS,FTHORA SKLIRON CHROMA SYNAFI,
FTHORA NENANO,CHROA ZYGOS,CHROA KLITON,CHROA SPATHI,FTHORA I YFESIS TETARTIMORION,
FTHORA ENARMONIOS ANTIFONIA,YFESIS TRITIMORION,DIESIS TRITIMORION,DIESIS TETARTIMORION,
DIESIS APLI DYO DODEKATA,DIESIS MONOGRAMMOS TESSERA DODEKATA,DIESIS DIGRAMMOS EX DODEKATA,
DIESIS TRIGRAMMOS OKTO DODEKATA,YFESIS APLI DYO DODEKATA,YFESIS MONOGRAMMOS TESSERA DODEKATA,
YFESIS DIGRAMMOS EX DODEKATA,YFESIS TRIGRAMMOS OKTO DODEKATA,GENIKI DIESIS,GENIKI YFESIS,
DIASTOLI APLI MIKRI,DIASTOLI APLI MEGALI,DIASTOLI DIPLI,DIASTOLI THESEOS,SIMANSIS THESEOS,
SIMANSIS THESEOS DISIMOU,SIMANSIS THESEOS TRISIMOU,SIMANSIS THESEOS TETRASIMOU,SIMANSIS ARSEOS,
SIMANSIS ARSEOS DISIMOU,SIMANSIS ARSEOS TRISIMOU,SIMANSIS ARSEOS TETRASIMOU,DIGRAMMA GG,
DIFTOGGOS OU,STIGMA,ARKTIKO PA,ARKTIKO VOU,ARKTIKO GA,ARKTIKO DI,ARKTIKO KE,ARKTIKO ZO,
ARKTIKO NI,KENTIMATA NEO MESO,KENTIMA NEO MESO,KENTIMATA NEO KATO,KENTIMA NEO KATO,KLASMA KATO,
GORGON NEO KATO;
1D100,MUSICAL SYMBOL ,SINGLE BARLINE,DOUBLE BARLINE,FINAL BARLINE,REVERSE FINAL BARLINE,
DASHED BARLINE,SHORT BARLINE,LEFT REPEAT SIGN,RIGHT REPEAT SIGN,REPEAT DOTS,DAL SEGNO,DA CAPO,
SEGNO,CODA,REPEATED FIGURE-1,REPEATED FIGURE-2,REPEATED FIGURE-3,FERMATA,FERMATA BELOW,
BREATH MARK,CAESURA,BRACE,BRACKET,ONE-LINE STAFF,TWO-LINE STAFF,THREE-LINE STAFF,FOUR-LINE STAFF,
FIVE-LINE STAFF,SIX-LINE STAFF,SIX-STRING FRETBOARD,FOUR-STRING FRETBOARD,G CLEF,
G CLEF OTTAVA ALTA,G CLEF OTTAVA BASSA,C CLEF,F CLEF,F CLEF OTTAVA ALTA,F CLEF OTTAVA BASSA,
DRUM CLEF-1,DRUM CLEF-2,,,MULTIPLE MEASURE REST,DOUBLE SHARP,DOUBLE FLAT,FLAT UP,FLAT DOWN,
NATURAL UP,NATURAL DOWN,SHARP UP,SHARP DOWN,QUARTER TONE SHARP,QUARTER TONE FLAT,COMMON TIME,
CUT TIME,OTTAVA ALTA,OTTAVA BASSA,QUINDICESIMA ALTA,QUINDICESIMA BASSA,MULTI REST,WHOLE REST,
HALF REST,QUARTER REST,EIGHTH REST,SIXTEENTH REST,THIRTY-SECOND REST,SIXTY-FOURTH REST,
ONE HUNDRED TWENTY-EIGHTH REST,X NOTEHEAD,PLUS NOTEHEAD,CIRCLE X NOTEHEAD,SQUARE NOTEHEAD WHITE,
SQUARE NOTEHEAD BLACK;
1D148,MUSICAL SYMBOL TRIANGLE NOTEHEAD ,UP WHITE,UP BLACK,LEFT WHITE,LEFT BLACK,RIGHT WHITE,
RIGHT BLACK,DOWN WHITE,DOWN BLACK,UP RIGHT WHITE,UP RIGHT BLACK;
1D152,MUSICAL SYMBOL ,MOON NOTEHEAD WHITE,MOON NOTEHEAD BLACK,TRIANGLE-ROUND NOTEHEAD DOWN WHITE,
TRIANGLE-ROUND NOTEHEAD DOWN BLACK,PARENTHESIS NOTEHEAD,VOID NOTEHEAD,NOTEHEAD BLACK,
NULL NOTEHEAD,CLUSTER NOTEHEAD WHITE,CLUSTER NOTEHEAD BLACK,BREVE,WHOLE NOTE,HALF NOTE,
QUARTER NOTE,EIGHTH NOTE,SIXTEENTH NOTE,THIRTY-SECOND NOTE,SIXTY-FOURTH NOTE,
ONE HUNDRED TWENTY-EIGHTH NOTE;
1D165,MUSICAL SYMBOL COMBINING ,STEM,SPRECHGESANG STEM,TREMOLO-1,TREMOLO-2,TREMOLO-3;
1D16A,MUSICAL SYMBOL FINGERED ,TREMOLO-1,TREMOLO-2,TREMOLO-3;
1D16D,MUSICAL SYMBOL COMBINING ,AUGMENTATION DOT,FLAG-1,FLAG-2,FLAG-3,FLAG-4,FLAG-5;
1D173,MUSICAL SYMBOL ,BEGIN BEAM,END BEAM,BEGIN TIE,END TIE,BEGIN SLUR,END SLUR,BEGIN PHRASE,
END PHRASE;
1D17B,MUSICAL SYMBOL COMBINING ,ACCENT,STACCATO,TENUTO,STACCATISSIMO,MARCATO,MARCATO-STACCATO,
ACCENT-STACCATO,LOURE;
1D183,MUSICAL SYMBOL ARPEGGIATO ,UP,DOWN;
1D185,MUSICAL SYMBOL COMBINING ,DOIT,RIP,FLIP,SMEAR,BEND,DOUBLE TONGUE,TRIPLE TONGUE;
1D18C,MUSICAL SYMBOL ,RINFORZANDO,SUBITO,Z,PIANO,MEZZO,FORTE,CRESCENDO,DECRESCENDO,
GRACE NOTE SLASH,GRACE NOTE NO SLASH,TR,TURN,INVERTED TURN,TURN SLASH,TURN UP;
1D19B,MUSICAL SYMBOL ORNAMENT ,STROKE-1,STROKE-2,STROKE-3,STROKE-4,STROKE-5,STROKE-6,STROKE-7,
STROKE-8,STROKE-9,STROKE-10,STROKE-11;
1D1A6,MUSICAL SYMBOL ,HAUPTSTIMME,NEBENSTIMME,END OF STIMME,DEGREE SLASH,COMBINING DOWN BOW,
COMBINING UP BOW,COMBINING HARMONIC,COMBINING SNAP PIZZICATO,PEDAL MARK,PEDAL UP MARK,
HALF PEDAL MARK,GLISSANDO UP,GLISSANDO DOWN,WITH FINGERNAILS,DAMP,DAMP ALL,MAXIMA,LONGA,BREVIS,
SEMIBREVIS WHITE,SEMIBREVIS BLACK,MINIMA,MINIMA BLACK,SEMIMINIMA WHITE,SEMIMINIMA BLACK,
FUSA WHITE,FUSA BLACK,LONGA PERFECTA REST,LONGA IMPERFECTA REST,BREVIS REST,SEMIBREVIS REST,
MINIMA REST,SEMIMINIMA REST;
1D1C7,MUSICAL SYMBOL TEMPUS PERFECTUM CUM PROLATIONE ,PERFECTA,IMPERFECTA,PERFECTA DIMINUTION-1;
1D1CA,MUSICAL SYMBOL TEMPUS IMPERFECTUM CUM PROLATIONE ,PERFECTA,IMPERFECTA,
IMPERFECTA DIMINUTION-1,IMPERFECTA DIMINUTION-2,IMPERFECTA DIMINUTION-3;
1D1CF,MUSICAL SYMBOL ,CROIX,GREGORIAN C CLEF,GREGORIAN F CLEF,SQUARE B,VIRGA,PODATUS,CLIVIS,
SCANDICUS,CLIMACUS,TORCULUS,PORRECTUS,PORRECTUS FLEXUS,SCANDICUS FLEXUS,TORCULUS RESUPINUS,
PES SUBPUNCTIS;
1D1DE,MUSICAL SYMBOL KIEVAN ,C CLEF,END OF PIECE,FINAL NOTE,RECITATIVE MARK,WHOLE NOTE,HALF NOTE,
QUARTER NOTE STEM DOWN,QUARTER NOTE STEM UP,EIGHTH NOTE STEM DOWN,EIGHTH NOTE STEM UP,FLAT SIGN;
1D1E9,MUSICAL SYMBOL ,SORI,KORON;
1D200,GREEK VOCAL NOTATION ,SYMBOL-1,SYMBOL-2,SYMBOL-3,SYMBOL-4,SYMBOL-5,SYMBOL-6,SYMBOL-7,
SYMBOL-8,SYMBOL-9,SYMBOL-10,SYMBOL-11,SYMBOL-12,SYMBOL-13,SYMBOL-14,SYMBOL-15,SYMBOL-16,
SYMBOL-17,SYMBOL-18,SYMBOL-19,SYMBOL-20,SYMBOL-21,SYMBOL-22,SYMBOL-23,SYMBOL-24,SYMBOL-50,
SYMBOL-51,SYMBOL-52,SYMBOL-53,SYMBOL-54;
1D21D,GREEK INSTRUMENTAL NOTATION ,SYMBOL-1,SYMBOL-2,SYMBOL-4,SYMBOL-5,SYMBOL-7,SYMBOL-8,
SYMBOL-11,SYMBOL-12,SYMBOL-13,SYMBOL-14,SYMBOL-17,SYMBOL-18,SYMBOL-19,SYMBOL-23,SYMBOL-24,
SYMBOL-25,SYMBOL-26,SYMBOL-27,SYMBOL-29,SYMBOL-30,SYMBOL-32,SYMBOL-36,SYMBOL-37,SYMBOL-38,
SYMBOL-39,SYMBOL-40,SYMBOL-42,SYMBOL-43,SYMBOL-45,SYMBOL-47,SYMBOL-48,SYMBOL-49,SYMBOL-50,
SYMBOL-51,SYMBOL-52,SYMBOL-53,SYMBOL-54;
1D242,COMBINING GREEK MUSICAL ,TRISEME,TETRASEME,PENTASEME;
1D245,,GREEK MUSICAL LEIMMA;
1D2E0,MAYAN NUMERAL ,ZERO,ONE,TWO,THREE,FOUR,FIVE,SIX,SEVEN,EIGHT,NINE,TEN,ELEVEN,TWELVE,
THIRTEEN,FOURTEEN,FIFTEEN,SIXTEEN,SEVENTEEN,EIGHTEEN,NINETEEN;
1D300,,MONOGRAM FOR EARTH;
1D301,DIGRAM FOR ,HEAVENLY EARTH,HUMAN EARTH,EARTHLY HEAVEN,EARTHLY HUMAN,EARTH;
1D306,TETRAGRAM FOR ,CENTRE,FULL CIRCLE,MIRED,BARRIER,KEEPING SMALL,CONTRARIETY,ASCENT,
OPPOSITION,BRANCHING OUT,DEFECTIVENESS OR DISTORTION,DIVERGENCE,YOUTHFULNESS,INCREASE,
PENETRATION,REACH,CONTACT,HOLDING BACK,WAITING,FOLLOWING,ADVANCE,RELEASE,RESISTANCE,EASE,JOY,
CONTENTION,ENDEAVOUR,DUTIES,CHANGE,DECISIVENESS,BOLD RESOLUTION,PACKING,LEGION,CLOSENESS,KINSHIP,
GATHERING,STRENGTH,PURITY,FULLNESS,RESIDENCE,LAW OR MODEL,RESPONSE,GOING TO MEET,ENCOUNTERS,
STOVE,GREATNESS,ENLARGEMENT,PATTERN,RITUAL,FLIGHT,VASTNESS OR WASTING,CONSTANCY,MEASURE,ETERNITY,
UNITY,DIMINISHMENT,CLOSED MOUTH,GUARDEDNESS,GATHERING IN,MASSING,ACCUMULATION,EMBELLISHMENT,
DOUBT,WATCH,SINKING,INNER,DEPARTURE,DARKENING,DIMMING,EXHAUSTION,SEVERANCE,STOPPAGE,HARDNESS,
COMPLETION,CLOSURE,FAILURE,AGGRAVATION,COMPLIANCE,ON THE VERGE,DIFFICULTIES,LABOURING,FOSTERING;
1D360,COUNTING ROD UNIT DIGIT ,ONE,TWO,THREE,FOUR,FIVE,SIX,SEVEN,EIGHT,NINE;
1D369,COUNTING ROD TENS DIGIT ,ONE,TWO,THREE,FOUR,FIVE,SIX,SEVEN,EIGHT,NINE;
1D372,IDEOGRAPHIC TALLY MARK ,ONE,TWO,THREE,FOUR,FIVE;
1D377,TALLY MARK ,ONE,FIVE;
1D400,MATHEMATICAL BOLD CAPITAL ,A,B,C,D,E,F,G,H,I,J,K,L,M,N,O,P,Q,R,S,T,U,V,W,X,Y,Z;
1D41A,MATHEMATICAL BOLD SMALL ,A,B,C,D,E,F,G,H,I,J,K,L,M,N,O,P,Q,R,S,T,U,V,W,X,Y,Z;
1D434,MATHEMATICAL ITALIC CAPITAL ,A,B,C,D,E,F,G,H,I,J,K,L,M,N,O,P,Q,R,S,T,U,V,W,X,Y,Z;
1D44E,MATHEMATICAL ITALIC SMALL ,A,B,C,D,E,F,G,,I,J,K,L,M,N,O,P,Q,R,S,T,U,V,W,X,Y,Z;
1D468,MATHEMATICAL BOLD ITALIC CAPITAL ,A,B,C,D,E,F,G,H,I,J,K,L,M,N,O,P,Q,R,S,T,U,V,W,X,Y,Z;
1D482,MATHEMATICAL BOLD ITALIC SMALL ,A,B,C,D,E,F,G,H,I,J,K,L,M,N,O,P,Q,R,S,T,U,V,W,X,Y,Z;
1D49C,MATHEMATICAL SCRIPT CAPITAL ,A,,C,D,,,G,,,J,K,,,N,O,P,Q,,S,T,U,V,W,X,Y,Z;
1D4B6,MATHEMATICAL SCRIPT SMALL ,A,B,C,D,,F,,H,I,J,K,L,M,N,,P,Q,R,S,T,U,V,W,X,Y,Z;
1D4D0,MATHEMATICAL BOLD SCRIPT CAPITAL ,A,B,C,D,E,F,G,H,I,J,K,L,M,N,O,P,Q,R,S,T,U,V,W,X,Y,Z;
1D4EA,MATHEMATICAL BOLD SCRIPT SMALL ,A,B,C,D,E,F,G,H,I,J,K,L,M,N,O,P,Q,R,S,T,U,V,W,X,Y,Z;
1D504,MATHEMATICAL FRAKTUR CAPITAL ,A,B,,D,E,F,G,,,J,K,L,M,N,O,P,Q,,S,T,U,V,W,X,Y;
1D51E,MATHEMATICAL FRAKTUR SMALL ,A,B,C,D,E,F,G,H,I,J,K,L,M,N,O,P,Q,R,S,T,U,V,W,X,Y,Z;
1D538,MATHEMATICAL DOUBLE-STRUCK CAPITAL ,A,B,,D,E,F,G,,I,J,K,L,M,,O,,,,S,T,U,V,W,X,Y;
1D552,MATHEMATICAL DOUBLE-STRUCK SMALL ,A,B,C,D,E,F,G,H,I,J,K,L,M,N,O,P,Q,R,S,T,U,V,W,X,Y,Z;
1D56C,MATHEMATICAL BOLD FRAKTUR CAPITAL ,A,B,C,D,E,F,G,H,I,J,K,L,M,N,O,P,Q,R,S,T,U,V,W,X,Y,Z;
1D586,MATHEMATICAL BOLD FRAKTUR SMALL ,A,B,C,D,E,F,G,H,I,J,K,L,M,N,O,P,Q,R,S,T,U,V,W,X,Y,Z;
1D5A0,MATHEMATICAL SANS-SERIF CAPITAL ,A,B,C,D,E,F,G,H,I,J,K,L,M,N,O,P,Q,R,S,T,U,V,W,X,Y,Z;
1D5BA,MATHEMATICAL SANS-SERIF SMALL ,A,B,C,D,E,F,G,H,I,J,K,L,M,N,O,P,Q,R,S,T,U,V,W,X,Y,Z;
1D5D4,MATHEMATICAL SANS-SERIF BOLD CAPITAL ,A,B,C,D,E,F,G,H,I,J,K,L,M,N,O,P,Q,R,S,T,U,V,W,X,Y,Z;
1D5EE,MATHEMATICAL SANS-SERIF BOLD SMALL ,A,B,C,D,E,F,G,H,I,J,K,L,M,N,O,P,Q,R,S,T,U,V,W,X,Y,Z;
1D608,MATHEMATICAL SANS-SERIF ITALIC CAPITAL ,A,B,C,D,E,F,G,H,I,J,K,L,M,N,O,P,Q,R,S,T,U,V,W,X,Y,
Z;
1D622,MATHEMATICAL SANS-SERIF ITALIC SMALL ,A,B,C,D,E,F,G,H,I,J,K,L,M,N,O,P,Q,R,S,T,U,V,W,X,Y,Z;
1D63C,MATHEMATICAL SANS-SERIF BOLD ITALIC CAPITAL ,A,B,C,D,E,F,G,H,I,J,K,L,M,N,O,P,Q,R,S,T,U,V,W,
X,Y,Z;
1D656,MATHEMATICAL SANS-SERIF BOLD ITALIC SMALL ,A,B,C,D,E,F,G,H,I,J,K,L,M,N,O,P,Q,R,S,T,U,V,W,X,
Y,Z;
1D670,MATHEMATICAL MONOSPACE CAPITAL ,A,B,C,D,E,F,G,H,I,J,K,L,M,N,O,P,Q,R,S,T,U,V,W,X,Y,Z;
1D68A,MATHEMATICAL MONOSPACE SMALL ,A,B,C,D,E,F,G,H,I,J,K,L,M,N,O,P,Q,R,S,T,U,V,W,X,Y,Z;
1D6A4,MATHEMATICAL ITALIC SMALL DOTLESS ,I,J;
1D6A8,MATHEMATICAL BOLD CAPITAL ,ALPHA,BETA,GAMMA,DELTA,EPSILON,ZETA,ETA,THETA,IOTA,KAPPA,LAMDA,
MU,NU,XI,OMICRON,PI,RHO,THETA SYMBOL,SIGMA,TAU,UPSILON,PHI,CHI,PSI,OMEGA;
1D6C1,,MATHEMATICAL BOLD NABLA;
1D6C2,MATHEMATICAL BOLD SMALL ,ALPHA,BETA,GAMMA,DELTA,EPSILON,ZETA,ETA,THETA,IOTA,KAPPA,LAMDA,MU,
NU,XI,OMICRON,PI,RHO,FINAL SIGMA,SIGMA,TAU,UPSILON,PHI,CHI,PSI,OMEGA;
1D6DB,MATHEMATICAL BOLD ,PARTIAL DIFFERENTIAL,EPSILON SYMBOL,THETA SYMBOL,KAPPA SYMBOL,
PHI SYMBOL,RHO SYMBOL,PI SYMBOL;
1D6E2,MATHEMATICAL ITALIC CAPITAL ,ALPHA,BETA,GAMMA,DELTA,EPSILON,ZETA,ETA,THETA,IOTA,KAPPA,
LAMDA,MU,NU,XI,OMICRON,PI,RHO,THETA SYMBOL,SIGMA,TAU,UPSILON,PHI,CHI,PSI,OMEGA;
1D6FB,,MATHEMATICAL ITALIC NABLA;
1D6FC,MATHEMATICAL ITALIC SMALL ,ALPHA,BETA,GAMMA,DELTA,EPSILON,ZETA,ETA,THETA,IOTA,KAPPA,LAMDA,
MU,NU,XI,OMICRON,PI,RHO,FINAL SIGMA,SIGMA,TAU,UPSILON,PHI,CHI,PSI,OMEGA;
1D715,MATHEMATICAL ITALIC ,PARTIAL DIFFERENTIAL,EPSILON SYMBOL,THETA SYMBOL,KAPPA SYMBOL,
PHI SYMBOL,RHO SYMBOL,PI SYMBOL;
1D71C,MATHEMATICAL BOLD ITALIC CAPITAL ,ALPHA,BETA,GAMMA,DELTA,EPSILON,ZETA,ETA,THETA,IOTA,KAPPA,
LAMDA,MU,NU,XI,OMICRON,PI,RHO,THETA SYMBOL,SIGMA,TAU,UPSILON,PHI,CHI,PSI,OMEGA;
1D735,,MATHEMATICAL BOLD ITALIC NABLA;
1D736,MATHEMATICAL BOLD ITALIC SMALL ,ALPHA,BETA,GAMMA,DELTA,EPSILON,ZETA,ETA,THETA,IOTA,KAPPA,
LAMDA,MU,NU,XI,OMICRON,PI,RHO,FINAL SIGMA,SIGMA,TAU,UPSILON,PHI,CHI,PSI,OMEGA;
1D74F,MATHEMATICAL BOLD ITALIC ,PARTIAL DIFFERENTIAL,EPSILON SYMBOL,THETA SYMBOL,KAPPA SYMBOL,
PHI SYMBOL,RHO SYMBOL,PI SYMBOL;
1D756,MATHEMATICAL SANS-SERIF BOLD CAPITAL ,ALPHA,BETA,GAMMA,DELTA,EPSILON,ZETA,ETA,THETA,IOTA,
KAPPA,LAMDA,MU,NU,XI,OMICRON,PI,RHO,THETA SYMBOL,SIGMA,TAU,UPSILON,PHI,CHI,PSI,OMEGA;
1D76F,,MATHEMATICAL SANS-SERIF BOLD NABLA;
1D770,MATHEMATICAL SANS-SERIF BOLD SMALL ,ALPHA,BETA,GAMMA,DELTA,EPSILON,ZETA,ETA,THETA,IOTA,
KAPPA,LAMDA,MU,NU,XI,OMICRON,PI,RHO,FINAL SIGMA,SIGMA,TAU,UPSILON,PHI,CHI,PSI,OMEGA;
1D789,MATHEMATICAL SANS-SERIF BOLD ,PARTIAL DIFFERENTIAL,EPSILON SYMBOL,THETA SYMBOL,
KAPPA SYMBOL,PHI SYMBOL,RHO SYMBOL,PI SYMBOL;
1D790,MATHEMATICAL SANS-SERIF BOLD ITALIC CAPITAL ,ALPHA,BETA,GAMMA,DELTA,EPSILON,ZETA,ETA,THETA,
IOTA,KAPPA,LAMDA,MU,NU,XI,OMICRON,PI,RHO,THETA SYMBOL,SIGMA,TAU,UPSILON,PHI,CHI,PSI,OMEGA;
1D7A9,,MATHEMATICAL SANS-SERIF BOLD ITALIC NABLA;
1D7AA,MATHEMATICAL SANS-SERIF BOLD ITALIC SMALL ,ALPHA,BETA,GAMMA,DELTA,EPSILON,ZETA,ETA,THETA,
IOTA,KAPPA,LAMDA,MU,NU,XI,OMICRON,PI,RHO,FINAL SIGMA,SIGMA,TAU,UPSILON,PHI,CHI,PSI,OMEGA;
1D7C3,MATHEMATICAL SANS-SERIF BOLD ITALIC ,PARTIAL DIFFERENTIAL,EPSILON SYMBOL,THETA SYMBOL,
KAPPA SYMBOL,PHI SYMBOL,RHO SYMBOL,PI SYMBOL;
1D7CA,MATHEMATICAL BOLD ,CAPITAL DIGAMMA,SMALL DIGAMMA;
1D7CE,MATHEMATICAL BOLD DIGIT ,ZERO,ONE,TWO,THREE,FOUR,FIVE,SIX,SEVEN,EIGHT,NINE;
1D7D8,MATHEMATICAL DOUBLE-STRUCK DIGIT ,ZERO,ONE,TWO,THREE,FOUR,FIVE,SIX,SEVEN,EIGHT,NINE;
1D7E2,MATHEMATICAL SANS-SERIF DIGIT ,ZERO,ONE,TWO,THREE,FOUR,FIVE,SIX,SEVEN,EIGHT,NINE;
1D7EC,MATHEMATICAL SANS-SERIF BOLD DIGIT ,ZERO,ONE,TWO,THREE,FOUR,FIVE,SIX,SEVEN,EIGHT,NINE;
1D7F6,MATHEMATICAL MONOSPACE DIGIT ,ZERO,ONE,TWO,THREE,FOUR,FIVE,SIX,SEVEN,EIGHT,NINE;
1D800,SIGNWRITING ,HAND-FIST INDEX,HAND-CIRCLE INDEX,HAND-CUP INDEX,HAND-OVAL INDEX,
HAND-HINGE INDEX,HAND-ANGLE INDEX,HAND-FIST INDEX BENT,HAND-CIRCLE INDEX BENT,
HAND-FIST THUMB UNDER INDEX BENT;
1D809,SIGNWRITING HAND-FIST INDEX ,RAISED KNUCKLE,CUPPED,HINGED,HINGED LOW;
1D80D,SIGNWRITING ,HAND-CIRCLE INDEX HINGE,HAND-FIST INDEX MIDDLE,HAND-CIRCLE INDEX MIDDLE;
1D810,SIGNWRITING HAND-FIST INDEX ,MIDDLE BENT,MIDDLE RAISED KNUCKLES,MIDDLE HINGED,
UP MIDDLE HINGED,HINGED MIDDLE UP,MIDDLE CONJOINED,MIDDLE CONJOINED INDEX BENT,
MIDDLE CONJOINED MIDDLE BENT,MIDDLE CONJOINED CUPPED,MIDDLE CONJOINED HINGED,MIDDLE CROSSED;
1D81B,SIGNWRITING ,HAND-CIRCLE INDEX MIDDLE CROSSED,HAND-FIST MIDDLE BENT OVER INDEX,
HAND-FIST INDEX BENT OVER MIDDLE,HAND-FIST INDEX MIDDLE THUMB,HAND-CIRCLE INDEX MIDDLE THUMB;
1D820,SIGNWRITING HAND-FIST INDEX ,MIDDLE STRAIGHT THUMB BENT,MIDDLE BENT THUMB STRAIGHT,
MIDDLE THUMB BENT,MIDDLE HINGED SPREAD THUMB SIDE,UP MIDDLE HINGED THUMB SIDE,
UP MIDDLE HINGED THUMB CONJOINED,HINGED MIDDLE UP THUMB SIDE,MIDDLE UP SPREAD THUMB FORWARD;
1D828,SIGNWRITING HAND-FIST INDEX MIDDLE THUMB ,CUPPED,CIRCLED,HOOKED,HINGED;
1D82C,SIGNWRITING HAND-FIST ,THUMB BETWEEN INDEX MIDDLE STRAIGHT,
INDEX MIDDLE CONJOINED THUMB SIDE,INDEX MIDDLE CONJOINED THUMB SIDE CONJOINED,
INDEX MIDDLE CONJOINED THUMB SIDE BENT,MIDDLE THUMB HOOKED INDEX UP,INDEX THUMB HOOKED MIDDLE UP,
INDEX MIDDLE CONJOINED HINGED THUMB SIDE,INDEX MIDDLE CROSSED THUMB SIDE,
INDEX MIDDLE CONJOINED THUMB FORWARD,INDEX MIDDLE CONJOINED CUPPED THUMB FORWARD,
MIDDLE THUMB CUPPED INDEX UP,INDEX THUMB CUPPED MIDDLE UP,MIDDLE THUMB CIRCLED INDEX UP,
MIDDLE THUMB CIRCLED INDEX HINGED,INDEX THUMB ANGLED OUT MIDDLE UP,
INDEX THUMB ANGLED IN MIDDLE UP,INDEX THUMB CIRCLED MIDDLE UP,
INDEX MIDDLE THUMB CONJOINED HINGED,INDEX MIDDLE THUMB ANGLED OUT,INDEX MIDDLE THUMB ANGLED,
MIDDLE THUMB ANGLED OUT INDEX UP,MIDDLE THUMB ANGLED OUT INDEX CROSSED,
MIDDLE THUMB ANGLED INDEX UP,INDEX THUMB HOOKED MIDDLE HINGED;
1D844,SIGNWRITING HAND-FLAT FOUR ,FINGERS,FINGERS BENT,FINGERS HINGED,FINGERS CONJOINED,
FINGERS CONJOINED SPLIT;
1D849,SIGNWRITING ,HAND-CLAW FOUR FINGERS CONJOINED,HAND-FIST FOUR FINGERS CONJOINED BENT,
HAND-HINGE FOUR FINGERS CONJOINED;
1D84C,SIGNWRITING HAND-FLAT ,FIVE FINGERS SPREAD,HEEL FIVE FINGERS SPREAD,
FIVE FINGERS SPREAD FOUR BENT,HEEL FIVE FINGERS SPREAD FOUR BENT,FIVE FINGERS SPREAD BENT,
HEEL FIVE FINGERS SPREAD BENT,FIVE FINGERS SPREAD THUMB FORWARD;
1D853,SIGNWRITING HAND-CUP FIVE FINGERS ,SPREAD,SPREAD OPEN;
1D855,SIGNWRITING ,HAND-HINGE FIVE FINGERS SPREAD OPEN,HAND-OVAL FIVE FINGERS SPREAD;
1D857,SIGNWRITING HAND-FLAT FIVE FINGERS SPREAD ,HINGED,HINGED THUMB SIDE,HINGED NO THUMB;
1D85A,,SIGNWRITING HAND-FLAT;
1D85B,SIGNWRITING HAND-FLAT ,BETWEEN PALM FACINGS,HEEL,THUMB SIDE,HEEL THUMB SIDE,THUMB BENT,
THUMB FORWARD,SPLIT INDEX THUMB SIDE,SPLIT CENTRE,SPLIT CENTRE THUMB SIDE,
SPLIT CENTRE THUMB SIDE BENT,SPLIT LITTLE;
1D866,SIGNWRITING ,HAND-CLAW,HAND-CLAW THUMB SIDE,HAND-CLAW NO THUMB,HAND-CLAW THUMB FORWARD,
HAND-HOOK CURLICUE,HAND-HOOK,HAND-CUP OPEN,HAND-CUP;
1D86E,SIGNWRITING HAND-CUP ,OPEN THUMB SIDE,THUMB SIDE,OPEN NO THUMB,NO THUMB,OPEN THUMB FORWARD,
THUMB FORWARD;
1D874,SIGNWRITING ,HAND-CURLICUE OPEN,HAND-CURLICUE,HAND-CIRCLE,HAND-OVAL,HAND-OVAL THUMB SIDE,
HAND-OVAL NO THUMB,HAND-OVAL THUMB FORWARD,HAND-HINGE OPEN,HAND-HINGE OPEN THUMB FORWARD,
HAND-HINGE;
1D87E,SIGNWRITING HAND-HINGE ,SMALL,OPEN THUMB SIDE,THUMB SIDE,OPEN NO THUMB,NO THUMB,
THUMB SIDE TOUCHING INDEX,THUMB BETWEEN MIDDLE RING;
1D885,SIGNWRITING ,HAND-ANGLE,HAND-FIST INDEX MIDDLE RING,HAND-CIRCLE INDEX MIDDLE RING,
HAND-HINGE INDEX MIDDLE RING,HAND-ANGLE INDEX MIDDLE RING,HAND-HINGE LITTLE,
HAND-FIST INDEX MIDDLE RING BENT,HAND-FIST INDEX MIDDLE RING CONJOINED,
HAND-HINGE INDEX MIDDLE RING CONJOINED;
1D88E,SIGNWRITING HAND-FIST LITTLE ,DOWN,DOWN RIPPLE STRAIGHT,DOWN RIPPLE CURVED,
DOWN OTHERS CIRCLED,UP;
1D893,SIGNWRITING ,HAND-FIST THUMB UNDER LITTLE UP,HAND-CIRCLE LITTLE UP,HAND-OVAL LITTLE UP,
HAND-ANGLE LITTLE UP;
1D897,SIGNWRITING HAND-FIST LITTLE ,RAISED KNUCKLE,BENT,TOUCHES THUMB,THUMB;
1D89B,SIGNWRITING ,HAND-HINGE LITTLE THUMB,HAND-FIST LITTLE INDEX THUMB,
HAND-HINGE LITTLE INDEX THUMB,HAND-ANGLE LITTLE INDEX THUMB INDEX THUMB OUT,
HAND-ANGLE LITTLE INDEX THUMB INDEX THUMB,HAND-FIST LITTLE INDEX,HAND-CIRCLE LITTLE INDEX,
HAND-HINGE LITTLE INDEX,HAND-ANGLE LITTLE INDEX,HAND-FIST INDEX MIDDLE LITTLE,
HAND-CIRCLE INDEX MIDDLE LITTLE,HAND-HINGE INDEX MIDDLE LITTLE,HAND-HINGE RING,
HAND-ANGLE INDEX MIDDLE LITTLE,HAND-FIST INDEX MIDDLE CROSS LITTLE,
HAND-CIRCLE INDEX MIDDLE CROSS LITTLE,HAND-FIST RING DOWN,
HAND-HINGE RING DOWN INDEX THUMB HOOK MIDDLE,HAND-ANGLE RING DOWN MIDDLE THUMB INDEX CROSS,
HAND-FIST RING UP,HAND-FIST RING RAISED KNUCKLE,HAND-FIST RING LITTLE,HAND-CIRCLE RING LITTLE,
HAND-OVAL RING LITTLE,HAND-ANGLE RING LITTLE;
1D8B4,SIGNWRITING HAND-FIST RING ,MIDDLE,MIDDLE CONJOINED,MIDDLE RAISED KNUCKLES,INDEX,THUMB;
1D8B9,SIGNWRITING ,HAND-HOOK RING THUMB,HAND-FIST INDEX RING LITTLE,
HAND-CIRCLE INDEX RING LITTLE,HAND-CURLICUE INDEX RING LITTLE ON;
1D8BD,SIGNWRITING HAND-HOOK INDEX RING LITTLE ,OUT,IN,UNDER;
1D8C0,SIGNWRITING ,HAND-CUP INDEX RING LITTLE,HAND-HINGE INDEX RING LITTLE,
HAND-ANGLE INDEX RING LITTLE OUT,HAND-ANGLE INDEX RING LITTLE,HAND-FIST MIDDLE DOWN,
HAND-HINGE MIDDLE,HAND-FIST MIDDLE UP,HAND-CIRCLE MIDDLE UP,HAND-FIST MIDDLE RAISED KNUCKLE,
HAND-FIST MIDDLE UP THUMB SIDE,HAND-HOOK MIDDLE THUMB,HAND-FIST MIDDLE THUMB LITTLE,
HAND-FIST MIDDLE LITTLE,HAND-FIST MIDDLE RING LITTLE,HAND-CIRCLE MIDDLE RING LITTLE,
HAND-CURLICUE MIDDLE RING LITTLE ON,HAND-CUP MIDDLE RING LITTLE,HAND-HINGE MIDDLE RING LITTLE;
1D8D2,SIGNWRITING HAND-ANGLE MIDDLE RING ,LITTLE OUT,LITTLE IN,LITTLE;
1D8D5,,SIGNWRITING HAND-CIRCLE MIDDLE RING LITTLE BENT;
1D8D6,SIGNWRITING HAND-CLAW MIDDLE RING LITTLE ,CONJOINED,CONJOINED SIDE;
1D8D8,SIGNWRITING HAND-HOOK MIDDLE RING LITTLE ,CONJOINED OUT,CONJOINED IN,CONJOINED;
1D8DB,SIGNWRITING ,HAND-HINGE INDEX HINGED,HAND-FIST INDEX THUMB SIDE,
HAND-HINGE INDEX THUMB SIDE;
1D8DE,SIGNWRITING HAND-FIST INDEX THUMB ,SIDE THUMB DIAGONAL,SIDE THUMB CONJOINED,
SIDE THUMB BENT,SIDE INDEX BENT,SIDE BOTH BENT,SIDE INDEX HINGE,FORWARD INDEX STRAIGHT,
FORWARD INDEX BENT,HOOK,CURLICUE,CURVE THUMB INSIDE;
1D8E9,SIGNWRITING ,HAND-CLAW INDEX THUMB CURVE THUMB INSIDE,
HAND-FIST INDEX THUMB CURVE THUMB UNDER,HAND-FIST INDEX THUMB CIRCLE,HAND-CUP INDEX THUMB,
HAND-CUP INDEX THUMB OPEN;
1D8EE,SIGNWRITING HAND-HINGE INDEX ,THUMB OPEN,THUMB LARGE,THUMB,THUMB SMALL;
1D8F2,SIGNWRITING HAND-ANGLE INDEX ,THUMB OUT,THUMB IN,THUMB;
1D8F5,,SIGNWRITING HAND-FIST THUMB;
1D8F6,SIGNWRITING HAND-FIST THUMB ,HEEL,SIDE DIAGONAL,SIDE CONJOINED,SIDE BENT,FORWARD,
BETWEEN INDEX MIDDLE,BETWEEN MIDDLE RING,BETWEEN RING LITTLE,UNDER TWO FINGERS,OVER TWO FINGERS,
UNDER THREE FINGERS,UNDER FOUR FINGERS,OVER FOUR RAISED KNUCKLES;
1D903,SIGNWRITING ,HAND-FIST,HAND-FIST HEEL,TOUCH SINGLE,TOUCH MULTIPLE,TOUCH BETWEEN,
GRASP SINGLE,GRASP MULTIPLE,GRASP BETWEEN,STRIKE SINGLE,STRIKE MULTIPLE,STRIKE BETWEEN,
BRUSH SINGLE,BRUSH MULTIPLE,BRUSH BETWEEN,RUB SINGLE,RUB MULTIPLE,RUB BETWEEN,SURFACE SYMBOLS,
SURFACE BETWEEN,SQUEEZE LARGE SINGLE,SQUEEZE SMALL SINGLE,SQUEEZE LARGE MULTIPLE,
SQUEEZE SMALL MULTIPLE,SQUEEZE SEQUENTIAL,FLICK LARGE SINGLE,FLICK SMALL SINGLE,
FLICK LARGE MULTIPLE,FLICK SMALL MULTIPLE,FLICK SEQUENTIAL,SQUEEZE FLICK ALTERNATING;
1D921,SIGNWRITING MOVEMENT-HINGE ,UP DOWN LARGE,UP DOWN SMALL,UP SEQUENTIAL,DOWN SEQUENTIAL,
UP DOWN ALTERNATING LARGE,UP DOWN ALTERNATING SMALL,SIDE TO SIDE SCISSORS;
1D928,SIGNWRITING ,MOVEMENT-WALLPLANE FINGER CONTACT,MOVEMENT-FLOORPLANE FINGER CONTACT;
1D92A,SIGNWRITING MOVEMENT-WALLPLANE SINGLE STRAIGHT ,SMALL,MEDIUM,LARGE,LARGEST;
1D92E,SIGNWRITING MOVEMENT-WALLPLANE ,SINGLE WRIST FLEX,DOUBLE STRAIGHT,DOUBLE WRIST FLEX,
DOUBLE ALTERNATING,DOUBLE ALTERNATING WRIST FLEX,CROSS,TRIPLE STRAIGHT MOVEMENT,
TRIPLE WRIST FLEX,TRIPLE ALTERNATING,TRIPLE ALTERNATING WRIST FLEX,BEND SMALL,BEND MEDIUM,
BEND LARGE,CORNER SMALL,CORNER MEDIUM,CORNER LARGE,CORNER ROTATION,CHECK SMALL,CHECK MEDIUM,
CHECK LARGE,BOX SMALL,BOX MEDIUM,BOX LARGE,ZIGZAG SMALL,ZIGZAG MEDIUM,ZIGZAG LARGE,PEAKS SMALL,
PEAKS MEDIUM,PEAKS LARGE;
1D94B,SIGNWRITING TRAVEL-WALLPLANE ROTATION-WALLPLANE ,SINGLE,DOUBLE,ALTERNATING;
1D94E,SIGNWRITING TRAVEL-WALLPLANE ROTATION-FLOORPLANE ,SINGLE,DOUBLE,ALTERNATING;
1D951,SIGNWRITING TRAVEL-WALLPLANE ,SHAKING,ARM SPIRAL SINGLE,ARM SPIRAL DOUBLE,
ARM SPIRAL TRIPLE;
1D955,SIGNWRITING MOVEMENT-DIAGONAL AWAY ,SMALL,MEDIUM,LARGE,LARGEST;
1D959,SIGNWRITING MOVEMENT-DIAGONAL TOWARDS ,SMALL,MEDIUM,LARGE,LARGEST;
1D95D,SIGNWRITING MOVEMENT-DIAGONAL BETWEEN ,AWAY SMALL,AWAY MEDIUM,AWAY LARGE,AWAY LARGEST,
TOWARDS SMALL,TOWARDS MEDIUM,TOWARDS LARGE,TOWARDS LARGEST;
1D965,SIGNWRITING MOVEMENT-FLOORPLANE SINGLE STRAIGHT ,SMALL,MEDIUM,LARGE,LARGEST;
1D969,SIGNWRITING MOVEMENT-FLOORPLANE ,SINGLE WRIST FLEX,DOUBLE STRAIGHT,DOUBLE WRIST FLEX,
DOUBLE ALTERNATING,DOUBLE ALTERNATING WRIST FLEX,CROSS,TRIPLE STRAIGHT MOVEMENT,
TRIPLE WRIST FLEX,TRIPLE ALTERNATING MOVEMENT,TRIPLE ALTERNATING WRIST FLEX,BEND,CORNER SMALL,
CORNER MEDIUM,CORNER LARGE,CHECK,BOX SMALL,BOX MEDIUM,BOX LARGE,ZIGZAG SMALL,ZIGZAG MEDIUM,
ZIGZAG LARGE,PEAKS SMALL,PEAKS MEDIUM,PEAKS LARGE;
1D981,SIGNWRITING TRAVEL-FLOORPLANE ROTATION-FLOORPLANE ,SINGLE,DOUBLE,ALTERNATING;
1D984,SIGNWRITING TRAVEL-FLOORPLANE ,ROTATION-WALLPLANE SINGLE,ROTATION-WALLPLANE DOUBLE,
ROTATION-WALLPLANE ALTERNATING,SHAKING;
1D988,SIGNWRITING MOVEMENT-WALLPLANE CURVE QUARTER ,SMALL,MEDIUM,LARGE,LARGEST;
1D98C,SIGNWRITING MOVEMENT-WALLPLANE CURVE HALF-CIRCLE ,SMALL,MEDIUM,LARGE,LARGEST;
1D990,SIGNWRITING MOVEMENT-WALLPLANE ,CURVE THREE-QUARTER CIRCLE SMALL,
CURVE THREE-QUARTER CIRCLE MEDIUM,HUMP SMALL,HUMP MEDIUM,HUMP LARGE,LOOP SMALL,LOOP MEDIUM,
LOOP LARGE,LOOP SMALL DOUBLE,WAVE CURVE DOUBLE SMALL,WAVE CURVE DOUBLE MEDIUM,
WAVE CURVE DOUBLE LARGE,WAVE CURVE TRIPLE SMALL,WAVE CURVE TRIPLE MEDIUM,WAVE CURVE TRIPLE LARGE,
CURVE THEN STRAIGHT,CURVED CROSS SMALL,CURVED CROSS MEDIUM;
1D9A2,SIGNWRITING ROTATION-WALLPLANE ,SINGLE,DOUBLE,ALTERNATE;
1D9A5,SIGNWRITING MOVEMENT-WALLPLANE ,SHAKING,CURVE HITTING FRONT WALL,HUMP HITTING FRONT WALL,
LOOP HITTING FRONT WALL,WAVE HITTING FRONT WALL;
1D9AA,SIGNWRITING ROTATION-WALLPLANE ,SINGLE HITTING FRONT WALL,DOUBLE HITTING FRONT WALL,
ALTERNATING HITTING FRONT WALL;
1D9AD,SIGNWRITING MOVEMENT-WALLPLANE ,CURVE HITTING CHEST,HUMP HITTING CHEST,LOOP HITTING CHEST,
WAVE HITTING CHEST;
1D9B1,SIGNWRITING ROTATION-WALLPLANE ,SINGLE HITTING CHEST,DOUBLE HITTING CHEST,
ALTERNATING HITTING CHEST;
1D9B4,SIGNWRITING MOVEMENT-WALLPLANE WAVE DIAGONAL PATH ,SMALL,MEDIUM,LARGE;
1D9B7,SIGNWRITING MOVEMENT-FLOORPLANE CURVE HITTING CEILING ,SMALL,LARGE;
1D9B9,SIGNWRITING MOVEMENT-FLOORPLANE HUMP HITTING CEILING ,SMALL DOUBLE,LARGE DOUBLE,
SMALL TRIPLE,LARGE TRIPLE;
1D9BD,SIGNWRITING MOVEMENT-FLOORPLANE LOOP HITTING CEILING ,SMALL SINGLE,LARGE SINGLE,
SMALL DOUBLE,LARGE DOUBLE;
1D9C1,SIGNWRITING MOVEMENT-FLOORPLANE WAVE HITTING CEILING ,SMALL,LARGE;
1D9C3,SIGNWRITING ROTATION-FLOORPLANE ,SINGLE HITTING CEILING,DOUBLE HITTING CEILING,
ALTERNATING HITTING CEILING;
1D9C6,SIGNWRITING MOVEMENT-FLOORPLANE CURVE HITTING FLOOR ,SMALL,LARGE;
1D9C8,SIGNWRITING MOVEMENT-FLOORPLANE HUMP HITTING FLOOR ,SMALL DOUBLE,LARGE DOUBLE,
TRIPLE SMALL TRIPLE,TRIPLE LARGE TRIPLE;
1D9CC,SIGNWRITING MOVEMENT-FLOORPLANE LOOP HITTING FLOOR ,SMALL SINGLE,LARGE SINGLE,SMALL DOUBLE,
LARGE DOUBLE;
1D9D0,SIGNWRITING MOVEMENT-FLOORPLANE WAVE HITTING FLOOR ,SMALL,LARGE;
1D9D2,SIGNWRITING ROTATION-FLOORPLANE ,SINGLE HITTING FLOOR,DOUBLE HITTING FLOOR,
ALTERNATING HITTING FLOOR;
1D9D5,SIGNWRITING MOVEMENT-FLOORPLANE ,CURVE SMALL,CURVE MEDIUM,CURVE LARGE,CURVE LARGEST,
CURVE COMBINED,HUMP SMALL,LOOP SMALL,WAVE SNAKE,WAVE SMALL,WAVE LARGE;
1D9DF,SIGNWRITING ROTATION-FLOORPLANE ,SINGLE,DOUBLE,ALTERNATING;
1D9E2,,SIGNWRITING MOVEMENT-FLOORPLANE SHAKING PARALLEL;
1D9E3,SIGNWRITING MOVEMENT-WALLPLANE ARM CIRCLE ,SMALL SINGLE,MEDIUM SINGLE,SMALL DOUBLE,
MEDIUM DOUBLE;
1D9E7,SIGNWRITING MOVEMENT-FLOORPLANE ARM CIRCLE HITTING WALL ,SMALL SINGLE,MEDIUM SINGLE,
LARGE SINGLE,SMALL DOUBLE,MEDIUM DOUBLE,LARGE DOUBLE;
1D9ED,SIGNWRITING MOVEMENT-WALLPLANE WRIST CIRCLE FRONT ,SINGLE,DOUBLE;
1D9EF,SIGNWRITING MOVEMENT-FLOORPLANE WRIST CIRCLE HITTING WALL ,SINGLE,DOUBLE;
1D9F1,SIGNWRITING MOVEMENT-WALLPLANE FINGER CIRCLES ,SINGLE,DOUBLE;
1D9F3,SIGNWRITING MOVEMENT-FLOORPLANE FINGER CIRCLES HITTING WALL ,SINGLE,DOUBLE;
1D9F5,SIGNWRITING DYNAMIC ,ARROWHEAD SMALL,ARROWHEAD LARGE,FAST,SLOW,TENSE,RELAXED,SIMULTANEOUS,
SIMULTANEOUS ALTERNATING,EVERY OTHER TIME,GRADUAL;
1D9FF,,SIGNWRITING HEAD;
1DA00,SIGNWRITING HEAD ,RIM,MOVEMENT-WALLPLANE STRAIGHT,MOVEMENT-WALLPLANE TILT,
MOVEMENT-FLOORPLANE STRAIGHT,MOVEMENT-WALLPLANE CURVE,MOVEMENT-FLOORPLANE CURVE,MOVEMENT CIRCLE;
1DA07,SIGNWRITING FACE DIRECTION POSITION NOSE ,FORWARD TILTING,UP OR DOWN,UP OR DOWN TILTING;
1DA0A,SIGNWRITING EYEBROWS STRAIGHT ,UP,NEUTRAL,DOWN;
1DA0D,SIGNWRITING DREAMY EYEBROWS ,NEUTRAL DOWN,DOWN NEUTRAL,UP NEUTRAL,NEUTRAL UP;
1DA11,SIGNWRITING ,FOREHEAD NEUTRAL,FOREHEAD CONTACT,FOREHEAD WRINKLED,EYES OPEN,EYES SQUEEZED,
EYES CLOSED,EYE BLINK SINGLE,EYE BLINK MULTIPLE,EYES HALF OPEN,EYES WIDE OPEN,EYES HALF CLOSED,
EYES WIDENING MOVEMENT,EYE WINK,EYELASHES UP,EYELASHES DOWN,EYELASHES FLUTTERING;
1DA21,SIGNWRITING EYEGAZE-WALLPLANE ,STRAIGHT,STRAIGHT DOUBLE,STRAIGHT ALTERNATING;
1DA24,SIGNWRITING EYEGAZE-FLOORPLANE ,STRAIGHT,STRAIGHT DOUBLE,STRAIGHT ALTERNATING;
1DA27,SIGNWRITING ,EYEGAZE-WALLPLANE CURVED,EYEGAZE-FLOORPLANE CURVED,EYEGAZE-WALLPLANE CIRCLING,
CHEEKS PUFFED,CHEEKS NEUTRAL,CHEEKS SUCKED,TENSE CHEEKS HIGH,TENSE CHEEKS MIDDLE,
TENSE CHEEKS LOW,EARS,NOSE NEUTRAL,NOSE CONTACT,NOSE WRINKLES,NOSE WIGGLES,AIR BLOWING OUT,
AIR SUCKING IN,AIR BLOW SMALL ROTATIONS,AIR SUCK SMALL ROTATIONS,BREATH INHALE,BREATH EXHALE;
1DA3B,SIGNWRITING MOUTH ,CLOSED NEUTRAL,CLOSED FORWARD,CLOSED CONTACT,SMILE,SMILE WRINKLED,
SMILE OPEN,FROWN,FROWN WRINKLED,FROWN OPEN,OPEN CIRCLE,OPEN FORWARD,OPEN WRINKLED,OPEN OVAL,
OPEN OVAL WRINKLED,OPEN OVAL YAWN,OPEN RECTANGLE,OPEN RECTANGLE WRINKLED,OPEN RECTANGLE YAWN,
KISS,KISS FORWARD,KISS WRINKLED,TENSE,TENSE FORWARD,TENSE SUCKED;
1DA53,SIGNWRITING ,LIPS PRESSED TOGETHER,LIP LOWER OVER UPPER,LIP UPPER OVER LOWER,MOUTH CORNERS,
MOUTH WRINKLES SINGLE,MOUTH WRINKLES DOUBLE;
1DA59,SIGNWRITING TONGUE ,STICKING OUT FAR,LICKING LIPS,TIP BETWEEN LIPS,
TIP TOUCHING INSIDE MOUTH,INSIDE MOUTH RELAXED,MOVES AGAINST CHEEK,CENTRE STICKING OUT,
CENTRE INSIDE MOUTH;
1DA61,SIGNWRITING ,TEETH,TEETH MOVEMENT,TEETH ON TONGUE,TEETH ON TONGUE MOVEMENT,TEETH ON LIPS,
TEETH ON LIPS MOVEMENT,TEETH BITE LIPS,MOVEMENT-WALLPLANE JAW,MOVEMENT-FLOORPLANE JAW,NECK,HAIR,
EXCITEMENT,SHOULDER HIP SPINE,SHOULDER HIP POSITIONS,WALLPLANE SHOULDER HIP MOVE,
FLOORPLANE SHOULDER HIP MOVE,SHOULDER TILTING FROM WAIST,TORSO-WALLPLANE STRAIGHT STRETCH,
TORSO-WALLPLANE CURVED BEND,TORSO-FLOORPLANE TWISTING,UPPER BODY TILTING FROM HIP JOINTS,
LIMB COMBINATION,LIMB LENGTH-1,LIMB LENGTH-2,LIMB LENGTH-3,LIMB LENGTH-4,LIMB LENGTH-5,
LIMB LENGTH-6,LIMB LENGTH-7,FINGER,LOCATION-WALLPLANE SPACE,LOCATION-FLOORPLANE SPACE;
1DA81,SIGNWRITING LOCATION ,HEIGHT,WIDTH,DEPTH,HEAD NECK,TORSO,LIMBS DIGITS;
1DA87,SIGNWRITING ,COMMA,FULL STOP,SEMICOLON,COLON,PARENTHESIS;
1DA9B,SIGNWRITING FILL ,MODIFIER-2,MODIFIER-3,MODIFIER-4,MODIFIER-5,MODIFIER-6;
1DAA1,SIGNWRITING ROTATION ,MODIFIER-2,MODIFIER-3,MODIFIER-4,MODIFIER-5,MODIFIER-6,MODIFIER-7,
MODIFIER-8,MODIFIER-9,MODIFIER-10,MODIFIER-11,MODIFIER-12,MODIFIER-13,MODIFIER-14,MODIFIER-15,
MODIFIER-16;
1DF00,LATIN ,SMALL LETTER FENG DIGRAPH WITH TRILL,SMALL LETTER REVERSED SCRIPT G,
LETTER SMALL CAPITAL TURNED G,SMALL LETTER REVERSED K,LETTER SMALL CAPITAL L WITH BELT;
1DF05,LATIN SMALL LETTER ,LEZH WITH RETROFLEX HOOK,TURNED Y WITH BELT,REVERSED ENG,
TURNED R WITH LONG LEG AND RETROFLEX HOOK,T WITH HOOK AND RETROFLEX HOOK;
1DF0A,,LATIN LETTER RETROFLEX CLICK WITH RETROFLEX HOOK;
1DF0B,LATIN SMALL LETTER ,ESH WITH DOUBLE BAR,ESH WITH DOUBLE BAR AND CURL,TURNED T WITH CURL;
1DF0E,LATIN LETTER ,INVERTED GLOTTAL STOP WITH CURL,STRETCHED C WITH CURL,SMALL CAPITAL TURNED K;
1DF11,LATIN SMALL LETTER ,L WITH FISHHOOK,DEZH DIGRAPH WITH PALATAL HOOK,
L WITH BELT AND PALATAL HOOK,ENG WITH PALATAL HOOK,TURNED R WITH PALATAL HOOK,
R WITH FISHHOOK AND PALATAL HOOK,TESH DIGRAPH WITH PALATAL HOOK,EZH WITH PALATAL HOOK,
DEZH DIGRAPH WITH RETROFLEX HOOK,I WITH STROKE AND RETROFLEX HOOK,O WITH RETROFLEX HOOK,
TESH DIGRAPH WITH RETROFLEX HOOK,C WITH RETROFLEX HOOK,S WITH CURL"

end SasMigration.CharacterName
