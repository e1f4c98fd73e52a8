import RouteAtlas.Text.Basic

/-!
# Names of characters

An escape can ask for a character by its Unicode name, as in `\N{BULLET}`. The names are listed
block by block, in the order of the characters: Latin, Greek and Cyrillic letters, combining
marks, punctuation, currency signs, arrows, mathematical and technical signs, drawing elements,
symbols, dingbats, the ideographic punctuation and the faces. Ideographs are named by their
number. A name that is not listed is not known.

Controls have no name of their own; they and a few invisible characters have aliases.
-/

namespace RouteAtlas.Text

/-- The names of neighbouring characters, between semicolons, the first belonging to `first`. A
character without a name has an empty one, and a small letter in front of a name abbreviates the
words that `leadWords` gives. -/
structure NameBlock where
  first : Nat
  names : String

/-- Words with which many names begin, and the small letter that abbreviates them. -/
def leadWords : Char → Option String
  | 'a' => some "LATIN CAPITAL LETTER "
  | 'b' => some "LATIN SMALL LETTER "
  | 'c' => some "GREEK CAPITAL LETTER "
  | 'd' => some "GREEK SMALL LETTER "
  | 'e' => some "CYRILLIC CAPITAL LETTER "
  | 'f' => some "CYRILLIC SMALL LETTER "
  | 'g' => some "COMBINING "
  | 'h' => some "MODIFIER LETTER "
  | 'i' => some "BOX DRAWINGS LIGHT "
  | 'j' => some "BOX DRAWINGS "
  | 'k' => some "CIRCLED "
  | 'l' => some "PARENTHESIZED "
  | 'm' => some "APL FUNCTIONAL SYMBOL "
  | 'n' => some "COPTIC CAPITAL LETTER "
  | 'o' => some "COPTIC SMALL LETTER "
  | 'p' => some "NEGATIVE CIRCLED "
  | 'q' => some "ROMAN NUMERAL "
  | 'r' => some "SMALL ROMAN NUMERAL "
  | _ => none

/-- The listed blocks. -/
def nameBlocks : List NameBlock := [
  ⟨0x0020,
  "SPACE;EXCLAMATION MARK;QUOTATION MARK;NUMBER SIGN;DOLLAR SIGN;PERCENT SIGN;AMPERSAND;
   APOSTROPHE;LEFT PARENTHESIS;RIGHT PARENTHESIS;ASTERISK;PLUS SIGN;COMMA;HYPHEN-MINUS;FULL STOP;
   SOLIDUS;DIGIT ZERO;DIGIT ONE;DIGIT TWO;DIGIT THREE;DIGIT FOUR;DIGIT FIVE;DIGIT SIX;
   DIGIT SEVEN;DIGIT EIGHT;DIGIT NINE;COLON;SEMICOLON;LESS-THAN SIGN;EQUALS SIGN;
   GREATER-THAN SIGN;QUESTION MARK;COMMERCIAL AT;aA;aB;aC;aD;aE;aF;aG;aH;aI;aJ;aK;aL;aM;aN;aO;aP;
   aQ;aR;aS;aT;aU;aV;aW;aX;aY;aZ;LEFT SQUARE BRACKET;REVERSE SOLIDUS;RIGHT SQUARE BRACKET;
   CIRCUMFLEX ACCENT;LOW LINE;GRAVE ACCENT;bA;bB;bC;bD;bE;bF;bG;bH;bI;bJ;bK;bL;bM;bN;bO;bP;bQ;bR;
   bS;bT;bU;bV;bW;bX;bY;bZ;LEFT CURLY BRACKET;VERTICAL LINE;RIGHT CURLY BRACKET;TILDE;;;;;;;;;;;;
   ;;;;;;;;;;;;;;;;;;;;;;NO-BREAK SPACE;INVERTED EXCLAMATION MARK;CENT SIGN;POUND SIGN;
   CURRENCY SIGN;YEN SIGN;BROKEN BAR;SECTION SIGN;DIAERESIS;COPYRIGHT SIGN;
   FEMININE ORDINAL INDICATOR;LEFT-POINTING DOUBLE ANGLE QUOTATION MARK;NOT SIGN;SOFT HYPHEN;
   REGISTERED SIGN;MACRON;DEGREE SIGN;PLUS-MINUS SIGN;SUPERSCRIPT TWO;SUPERSCRIPT THREE;
   ACUTE ACCENT;MICRO SIGN;PILCROW SIGN;MIDDLE DOT;CEDILLA;SUPERSCRIPT ONE;
   MASCULINE ORDINAL INDICATOR;RIGHT-POINTING DOUBLE ANGLE QUOTATION MARK;
   VULGAR FRACTION ONE QUARTER;VULGAR FRACTION ONE HALF;VULGAR FRACTION THREE QUARTERS;
   INVERTED QUESTION MARK;aA WITH GRAVE;aA WITH ACUTE;aA WITH CIRCUMFLEX;aA WITH TILDE;
   aA WITH DIAERESIS;aA WITH RING ABOVE;aAE;aC WITH CEDILLA;aE WITH GRAVE;aE WITH ACUTE;
   aE WITH CIRCUMFLEX;aE WITH DIAERESIS;aI WITH GRAVE;aI WITH ACUTE;aI WITH CIRCUMFLEX;
   aI WITH DIAERESIS;aETH;aN WITH TILDE;aO WITH GRAVE;aO WITH ACUTE;aO WITH CIRCUMFLEX;
   aO WITH TILDE;aO WITH DIAERESIS;MULTIPLICATION SIGN;aO WITH STROKE;aU WITH GRAVE;
   aU WITH ACUTE;aU WITH CIRCUMFLEX;aU WITH DIAERESIS;aY WITH ACUTE;aTHORN;bSHARP S;
   bA WITH GRAVE;bA WITH ACUTE;bA WITH CIRCUMFLEX;bA WITH TILDE;bA WITH DIAERESIS;
   bA WITH RING ABOVE;bAE;bC WITH CEDILLA;bE WITH GRAVE;bE WITH ACUTE;bE WITH CIRCUMFLEX;
   bE WITH DIAERESIS;bI WITH GRAVE;bI WITH ACUTE;bI WITH CIRCUMFLEX;bI WITH DIAERESIS;bETH;
   bN WITH TILDE;bO WITH GRAVE;bO WITH ACUTE;bO WITH CIRCUMFLEX;bO WITH TILDE;bO WITH DIAERESIS;
   DIVISION SIGN;bO WITH STROKE;bU WITH GRAVE;bU WITH ACUTE;bU WITH CIRCUMFLEX;bU WITH DIAERESIS;
   bY WITH ACUTE;bTHORN;bY WITH DIAERESIS;aA WITH MACRON;bA WITH MACRON;aA WITH BREVE;
   bA WITH BREVE;aA WITH OGONEK;bA WITH OGONEK;aC WITH ACUTE;bC WITH ACUTE;aC WITH CIRCUMFLEX;
   bC WITH CIRCUMFLEX;aC WITH DOT ABOVE;bC WITH DOT ABOVE;aC WITH CARON;bC WITH CARON;
   aD WITH CARON;bD WITH CARON;aD WITH STROKE;bD WITH STROKE;aE WITH MACRON;bE WITH MACRON;
   aE WITH BREVE;bE WITH BREVE;aE WITH DOT ABOVE;bE WITH DOT ABOVE;aE WITH OGONEK;bE WITH OGONEK;
   aE WITH CARON;bE WITH CARON;aG WITH CIRCUMFLEX;bG WITH CIRCUMFLEX;aG WITH BREVE;bG WITH BREVE;
   aG WITH DOT ABOVE;bG WITH DOT ABOVE;aG WITH CEDILLA;bG WITH CEDILLA;aH WITH CIRCUMFLEX;
   bH WITH CIRCUMFLEX;aH WITH STROKE;bH WITH STROKE;aI WITH TILDE;bI WITH TILDE;aI WITH MACRON;
   bI WITH MACRON;aI WITH BREVE;bI WITH BREVE;aI WITH OGONEK;bI WITH OGONEK;aI WITH DOT ABOVE;
   bDOTLESS I;LATIN CAPITAL LIGATURE IJ;LATIN SMALL LIGATURE IJ;aJ WITH CIRCUMFLEX;
   bJ WITH CIRCUMFLEX;aK WITH CEDILLA;bK WITH CEDILLA;bKRA;aL WITH ACUTE;bL WITH ACUTE;
   aL WITH CEDILLA;bL WITH CEDILLA;aL WITH CARON;bL WITH CARON;aL WITH MIDDLE DOT;
   bL WITH MIDDLE DOT;aL WITH STROKE;bL WITH STROKE;aN WITH ACUTE;bN WITH ACUTE;aN WITH CEDILLA;
   bN WITH CEDILLA;aN WITH CARON;bN WITH CARON;bN PRECEDED BY APOSTROPHE;aENG;bENG;
   aO WITH MACRON;bO WITH MACRON;aO WITH BREVE;bO WITH BREVE;aO WITH DOUBLE ACUTE;
   bO WITH DOUBLE ACUTE;LATIN CAPITAL LIGATURE OE;LATIN SMALL LIGATURE OE;aR WITH ACUTE;
   bR WITH ACUTE;aR WITH CEDILLA;bR WITH CEDILLA;aR WITH CARON;bR WITH CARON;aS WITH ACUTE;
   bS WITH ACUTE;aS WITH CIRCUMFLEX;bS WITH CIRCUMFLEX;aS WITH CEDILLA;bS WITH CEDILLA;
   aS WITH CARON;bS WITH CARON;aT WITH CEDILLA;bT WITH CEDILLA;aT WITH CARON;bT WITH CARON;
   aT WITH STROKE;bT WITH STROKE;aU WITH TILDE;bU WITH TILDE;aU WITH MACRON;bU WITH MACRON;
   aU WITH BREVE;bU WITH BREVE;aU WITH RING ABOVE;bU WITH RING ABOVE;aU WITH DOUBLE ACUTE;
   bU WITH DOUBLE ACUTE;aU WITH OGONEK;bU WITH OGONEK;aW WITH CIRCUMFLEX;bW WITH CIRCUMFLEX;
   aY WITH CIRCUMFLEX;bY WITH CIRCUMFLEX;aY WITH DIAERESIS;aZ WITH ACUTE;bZ WITH ACUTE;
   aZ WITH DOT ABOVE;bZ WITH DOT ABOVE;aZ WITH CARON;bZ WITH CARON;bLONG S;bB WITH STROKE;
   aB WITH HOOK;aB WITH TOPBAR;bB WITH TOPBAR;aTONE SIX;bTONE SIX;aOPEN O;aC WITH HOOK;
   bC WITH HOOK;aAFRICAN D;aD WITH HOOK;aD WITH TOPBAR;bD WITH TOPBAR;bTURNED DELTA;aREVERSED E;
   aSCHWA;aOPEN E;aF WITH HOOK;bF WITH HOOK;aG WITH HOOK;aGAMMA;bHV;aIOTA;aI WITH STROKE;
   aK WITH HOOK;bK WITH HOOK;bL WITH BAR;bLAMBDA WITH STROKE;aTURNED M;aN WITH LEFT HOOK;
   bN WITH LONG RIGHT LEG;aO WITH MIDDLE TILDE;aO WITH HORN;bO WITH HORN;aOI;bOI;aP WITH HOOK;
   bP WITH HOOK;LATIN LETTER YR;aTONE TWO;bTONE TWO;aESH;LATIN LETTER REVERSED ESH LOOP;
   bT WITH PALATAL HOOK;aT WITH HOOK;bT WITH HOOK;aT WITH RETROFLEX HOOK;aU WITH HORN;
   bU WITH HORN;aUPSILON;aV WITH HOOK;aY WITH HOOK;bY WITH HOOK;aZ WITH STROKE;bZ WITH STROKE;
   aEZH;aEZH REVERSED;bEZH REVERSED;bEZH WITH TAIL;LATIN LETTER TWO WITH STROKE;aTONE FIVE;
   bTONE FIVE;LATIN LETTER INVERTED GLOTTAL STOP WITH STROKE;LATIN LETTER WYNN;
   LATIN LETTER DENTAL CLICK;LATIN LETTER LATERAL CLICK;LATIN LETTER ALVEOLAR CLICK;
   LATIN LETTER RETROFLEX CLICK;aDZ WITH CARON;aD WITH SMALL LETTER Z WITH CARON;bDZ WITH CARON;
   aLJ;aL WITH SMALL LETTER J;bLJ;aNJ;aN WITH SMALL LETTER J;bNJ;aA WITH CARON;bA WITH CARON;
   aI WITH CARON;bI WITH CARON;aO WITH CARON;bO WITH CARON;aU WITH CARON;bU WITH CARON;
   aU WITH DIAERESIS AND MACRON;bU WITH DIAERESIS AND MACRON;aU WITH DIAERESIS AND ACUTE;
   bU WITH DIAERESIS AND ACUTE;aU WITH DIAERESIS AND CARON;bU WITH DIAERESIS AND CARON;
   aU WITH DIAERESIS AND GRAVE;bU WITH DIAERESIS AND GRAVE;bTURNED E;
   aA WITH DIAERESIS AND MACRON;bA WITH DIAERESIS AND MACRON;aA WITH DOT ABOVE AND MACRON;
   bA WITH DOT ABOVE AND MACRON;aAE WITH MACRON;bAE WITH MACRON;aG WITH STROKE;bG WITH STROKE;
   aG WITH CARON;bG WITH CARON;aK WITH CARON;bK WITH CARON;aO WITH OGONEK;bO WITH OGONEK;
   aO WITH OGONEK AND MACRON;bO WITH OGONEK AND MACRON;aEZH WITH CARON;bEZH WITH CARON;
   bJ WITH CARON;aDZ;aD WITH SMALL LETTER Z;bDZ;aG WITH ACUTE;bG WITH ACUTE;aHWAIR;aWYNN;
   aN WITH GRAVE;bN WITH GRAVE;aA WITH RING ABOVE AND ACUTE;bA WITH RING ABOVE AND ACUTE;
   aAE WITH ACUTE;bAE WITH ACUTE;aO WITH STROKE AND ACUTE;bO WITH STROKE AND ACUTE;
   aA WITH DOUBLE GRAVE;bA WITH DOUBLE GRAVE;aA WITH INVERTED BREVE;bA WITH INVERTED BREVE;
   aE WITH DOUBLE GRAVE;bE WITH DOUBLE GRAVE;aE WITH INVERTED BREVE;bE WITH INVERTED BREVE;
   aI WITH DOUBLE GRAVE;bI WITH DOUBLE GRAVE;aI WITH INVERTED BREVE;bI WITH INVERTED BREVE;
   aO WITH DOUBLE GRAVE;bO WITH DOUBLE GRAVE;aO WITH INVERTED BREVE;bO WITH INVERTED BREVE;
   aR WITH DOUBLE GRAVE;bR WITH DOUBLE GRAVE;aR WITH INVERTED BREVE;bR WITH INVERTED BREVE;
   aU WITH DOUBLE GRAVE;bU WITH DOUBLE GRAVE;aU WITH INVERTED BREVE;bU WITH INVERTED BREVE;
   aS WITH COMMA BELOW;bS WITH COMMA BELOW;aT WITH COMMA BELOW;bT WITH COMMA BELOW;aYOGH;bYOGH;
   aH WITH CARON;bH WITH CARON;aN WITH LONG RIGHT LEG;bD WITH CURL;aOU;bOU;aZ WITH HOOK;
   bZ WITH HOOK;aA WITH DOT ABOVE;bA WITH DOT ABOVE;aE WITH CEDILLA;bE WITH CEDILLA;
   aO WITH DIAERESIS AND MACRON;bO WITH DIAERESIS AND MACRON;aO WITH TILDE AND MACRON;
   bO WITH TILDE AND MACRON;aO WITH DOT ABOVE;bO WITH DOT ABOVE;aO WITH DOT ABOVE AND MACRON;
   bO WITH DOT ABOVE AND MACRON;aY WITH MACRON;bY WITH MACRON;bL WITH CURL;bN WITH CURL;
   bT WITH CURL;bDOTLESS J;bDB DIGRAPH;bQP DIGRAPH;aA WITH STROKE;aC WITH STROKE;bC WITH STROKE;
   aL WITH BAR;aT WITH DIAGONAL STROKE;bS WITH SWASH TAIL;bZ WITH SWASH TAIL;aGLOTTAL STOP;
   bGLOTTAL STOP;aB WITH STROKE;aU BAR;aTURNED V;aE WITH STROKE;bE WITH STROKE;aJ WITH STROKE;
   bJ WITH STROKE;aSMALL Q WITH HOOK TAIL;bQ WITH HOOK TAIL;aR WITH STROKE;bR WITH STROKE;
   aY WITH STROKE;bY WITH STROKE"⟩,
  ⟨0x02B0,
  "hSMALL H;hSMALL H WITH HOOK;hSMALL J;hSMALL R;hSMALL TURNED R;hSMALL TURNED R WITH HOOK;
   hSMALL CAPITAL INVERTED R;hSMALL W;hSMALL Y;hPRIME;hDOUBLE PRIME;hTURNED COMMA;hAPOSTROPHE;
   hREVERSED COMMA;hRIGHT HALF RING;hLEFT HALF RING;hGLOTTAL STOP;hREVERSED GLOTTAL STOP;
   hLEFT ARROWHEAD;hRIGHT ARROWHEAD;hUP ARROWHEAD;hDOWN ARROWHEAD;hCIRCUMFLEX ACCENT;CARON;
   hVERTICAL LINE;hMACRON;hACUTE ACCENT;hGRAVE ACCENT;hLOW VERTICAL LINE;hLOW MACRON;
   hLOW GRAVE ACCENT;hLOW ACUTE ACCENT;hTRIANGULAR COLON;hHALF TRIANGULAR COLON;
   hCENTRED RIGHT HALF RING;hCENTRED LEFT HALF RING;hUP TACK;hDOWN TACK;hPLUS SIGN;hMINUS SIGN;
   BREVE;DOT ABOVE;RING ABOVE;OGONEK;SMALL TILDE;DOUBLE ACUTE ACCENT;hRHOTIC HOOK;hCROSS ACCENT;
   hSMALL GAMMA;hSMALL L;hSMALL S;hSMALL X;hSMALL REVERSED GLOTTAL STOP;hEXTRA-HIGH TONE BAR;
   hHIGH TONE BAR;hMID TONE BAR;hLOW TONE BAR;hEXTRA-LOW TONE BAR;hYIN DEPARTING TONE MARK;
   hYANG DEPARTING TONE MARK;hVOICING;hUNASPIRATED;hDOUBLE APOSTROPHE;hLOW DOWN ARROWHEAD;
   hLOW UP ARROWHEAD;hLOW LEFT ARROWHEAD;hLOW RIGHT ARROWHEAD;hLOW RING;hMIDDLE GRAVE ACCENT;
   hMIDDLE DOUBLE GRAVE ACCENT;hMIDDLE DOUBLE ACUTE ACCENT;hLOW TILDE;hRAISED COLON;
   hBEGIN HIGH TONE;hEND HIGH TONE;hBEGIN LOW TONE;hEND LOW TONE;hSHELF;hOPEN SHELF;
   hLOW LEFT ARROW;gGRAVE ACCENT;gACUTE ACCENT;gCIRCUMFLEX ACCENT;gTILDE;gMACRON;gOVERLINE;
   gBREVE;gDOT ABOVE;gDIAERESIS;gHOOK ABOVE;gRING ABOVE;gDOUBLE ACUTE ACCENT;gCARON;
   gVERTICAL LINE ABOVE;gDOUBLE VERTICAL LINE ABOVE;gDOUBLE GRAVE ACCENT;gCANDRABINDU;
   gINVERTED BREVE;gTURNED COMMA ABOVE;gCOMMA ABOVE;gREVERSED COMMA ABOVE;gCOMMA ABOVE RIGHT;
   gGRAVE ACCENT BELOW;gACUTE ACCENT BELOW;gLEFT TACK BELOW;gRIGHT TACK BELOW;gLEFT ANGLE ABOVE;
   gHORN;gLEFT HALF RING BELOW;gUP TACK BELOW;gDOWN TACK BELOW;gPLUS SIGN BELOW;
   gMINUS SIGN BELOW;gPALATALIZED HOOK BELOW;gRETROFLEX HOOK BELOW;gDOT BELOW;gDIAERESIS BELOW;
   gRING BELOW;gCOMMA BELOW;gCEDILLA;gOGONEK;gVERTICAL LINE BELOW;gBRIDGE BELOW;
   gINVERTED DOUBLE ARCH BELOW;gCARON BELOW;gCIRCUMFLEX ACCENT BELOW;gBREVE BELOW;
   gINVERTED BREVE BELOW;gTILDE BELOW;gMACRON BELOW;gLOW LINE;gDOUBLE LOW LINE;gTILDE OVERLAY;
   gSHORT STROKE OVERLAY;gLONG STROKE OVERLAY;gSHORT SOLIDUS OVERLAY;gLONG SOLIDUS OVERLAY;
   gRIGHT HALF RING BELOW;gINVERTED BRIDGE BELOW;gSQUARE BELOW;gSEAGULL BELOW;gX ABOVE;
   gVERTICAL TILDE;gDOUBLE OVERLINE;gGRAVE TONE MARK;gACUTE TONE MARK;gGREEK PERISPOMENI;
   gGREEK KORONIS;gGREEK DIALYTIKA TONOS;gGREEK YPOGEGRAMMENI;gBRIDGE ABOVE;gEQUALS SIGN BELOW;
   gDOUBLE VERTICAL LINE BELOW;gLEFT ANGLE BELOW;gNOT TILDE ABOVE;gHOMOTHETIC ABOVE;
   gALMOST EQUAL TO ABOVE;gLEFT RIGHT ARROW BELOW;gUPWARDS ARROW BELOW;gGRAPHEME JOINER;
   gRIGHT ARROWHEAD ABOVE;gLEFT HALF RING ABOVE;gFERMATA;gX BELOW;gLEFT ARROWHEAD BELOW;
   gRIGHT ARROWHEAD BELOW;gRIGHT ARROWHEAD AND UP ARROWHEAD BELOW;gRIGHT HALF RING ABOVE;
   gDOT ABOVE RIGHT;gASTERISK BELOW;gDOUBLE RING BELOW;gZIGZAG ABOVE;gDOUBLE BREVE BELOW;
   gDOUBLE BREVE;gDOUBLE MACRON;gDOUBLE MACRON BELOW;gDOUBLE TILDE;gDOUBLE INVERTED BREVE;
   gDOUBLE RIGHTWARDS ARROW BELOW;gLATIN SMALL LETTER A;gLATIN SMALL LETTER E;
   gLATIN SMALL LETTER I;gLATIN SMALL LETTER O;gLATIN SMALL LETTER U;gLATIN SMALL LETTER C;
   gLATIN SMALL LETTER D;gLATIN SMALL LETTER H;gLATIN SMALL LETTER M;gLATIN SMALL LETTER R;
   gLATIN SMALL LETTER T;gLATIN SMALL LETTER V;gLATIN SMALL LETTER X"⟩,
  ⟨0x0370,
  "cHETA;dHETA;cARCHAIC SAMPI;dARCHAIC SAMPI;GREEK NUMERAL SIGN;GREEK LOWER NUMERAL SIGN;
   cPAMPHYLIAN DIGAMMA;dPAMPHYLIAN DIGAMMA;;;GREEK YPOGEGRAMMENI;
   GREEK SMALL REVERSED LUNATE SIGMA SYMBOL;GREEK SMALL DOTTED LUNATE SIGMA SYMBOL;
   GREEK SMALL REVERSED DOTTED LUNATE SIGMA SYMBOL;GREEK QUESTION MARK;cYOT;;;;;GREEK TONOS;
   GREEK DIALYTIKA TONOS;cALPHA WITH TONOS;GREEK ANO TELEIA;cEPSILON WITH TONOS;cETA WITH TONOS;
   cIOTA WITH TONOS;;cOMICRON WITH TONOS;;cUPSILON WITH TONOS;cOMEGA WITH TONOS;
   dIOTA WITH DIALYTIKA AND TONOS;cALPHA;cBETA;cGAMMA;cDELTA;cEPSILON;cZETA;cETA;cTHETA;cIOTA;
   cKAPPA;cLAMDA;cMU;cNU;cXI;cOMICRON;cPI;cRHO;;cSIGMA;cTAU;cUPSILON;cPHI;cCHI;cPSI;cOMEGA;
   cIOTA WITH DIALYTIKA;cUPSILON WITH DIALYTIKA;dALPHA WITH TONOS;dEPSILON WITH TONOS;
   dETA WITH TONOS;dIOTA WITH TONOS;dUPSILON WITH DIALYTIKA AND TONOS;dALPHA;dBETA;dGAMMA;dDELTA;
   dEPSILON;dZETA;dETA;dTHETA;dIOTA;dKAPPA;dLAMDA;dMU;dNU;dXI;dOMICRON;dPI;dRHO;dFINAL SIGMA;
   dSIGMA;dTAU;dUPSILON;dPHI;dCHI;dPSI;dOMEGA;dIOTA WITH DIALYTIKA;dUPSILON WITH DIALYTIKA;
   dOMICRON WITH TONOS;dUPSILON WITH TONOS;dOMEGA WITH TONOS;GREEK CAPITAL KAI SYMBOL;
   GREEK BETA SYMBOL;GREEK THETA SYMBOL;GREEK UPSILON WITH HOOK SYMBOL;
   GREEK UPSILON WITH ACUTE AND HOOK SYMBOL;GREEK UPSILON WITH DIAERESIS AND HOOK SYMBOL;
   GREEK PHI SYMBOL;GREEK PI SYMBOL;GREEK KAI SYMBOL;GREEK LETTER ARCHAIC KOPPA;dARCHAIC KOPPA;
   GREEK LETTER STIGMA;dSTIGMA;GREEK LETTER DIGAMMA;dDIGAMMA;GREEK LETTER KOPPA;dKOPPA;
   GREEK LETTER SAMPI;dSAMPI;nSHEI;oSHEI;nFEI;oFEI;nKHEI;oKHEI;nHORI;oHORI;nGANGIA;oGANGIA;
   nSHIMA;oSHIMA;nDEI;oDEI;GREEK KAPPA SYMBOL;GREEK RHO SYMBOL;GREEK LUNATE SIGMA SYMBOL;
   GREEK LETTER YOT;GREEK CAPITAL THETA SYMBOL;GREEK LUNATE EPSILON SYMBOL;
   GREEK REVERSED LUNATE EPSILON SYMBOL;cSHO;dSHO;GREEK CAPITAL LUNATE SIGMA SYMBOL;cSAN;dSAN;
   GREEK RHO WITH STROKE SYMBOL;GREEK CAPITAL REVERSED LUNATE SIGMA SYMBOL;
   GREEK CAPITAL DOTTED LUNATE SIGMA SYMBOL;GREEK CAPITAL REVERSED DOTTED LUNATE SIGMA SYMBOL"⟩,
  ⟨0x0400,
  "eIE WITH GRAVE;eIO;eDJE;eGJE;eUKRAINIAN IE;eDZE;eBYELORUSSIAN-UKRAINIAN I;eYI;eJE;eLJE;eNJE;
   eTSHE;eKJE;eI WITH GRAVE;eSHORT U;eDZHE;eA;eBE;eVE;eGHE;eDE;eIE;eZHE;eZE;eI;eSHORT I;eKA;eEL;
   eEM;eEN;eO;ePE;eER;eES;eTE;eU;eEF;eHA;eTSE;eCHE;eSHA;eSHCHA;eHARD SIGN;eYERU;eSOFT SIGN;eE;
   eYU;eYA;fA;fBE;fVE;fGHE;fDE;fIE;fZHE;fZE;fI;fSHORT I;fKA;fEL;fEM;fEN;fO;fPE;fER;fES;fTE;fU;
   fEF;fHA;fTSE;fCHE;fSHA;fSHCHA;fHARD SIGN;fYERU;fSOFT SIGN;fE;fYU;fYA;fIE WITH GRAVE;fIO;fDJE;
   fGJE;fUKRAINIAN IE;fDZE;fBYELORUSSIAN-UKRAINIAN I;fYI;fJE;fLJE;fNJE;fTSHE;fKJE;fI WITH GRAVE;
   fSHORT U;fDZHE"⟩,
  ⟨0x2000,
  "EN QUAD;EM QUAD;EN SPACE;EM SPACE;THREE-PER-EM SPACE;FOUR-PER-EM SPACE;SIX-PER-EM SPACE;
   FIGURE SPACE;PUNCTUATION SPACE;THIN SPACE;HAIR SPACE;ZERO WIDTH SPACE;ZERO WIDTH NON-JOINER;
   ZERO WIDTH JOINER;LEFT-TO-RIGHT MARK;RIGHT-TO-LEFT MARK;HYPHEN;NON-BREAKING HYPHEN;
   FIGURE DASH;EN DASH;EM DASH;HORIZONTAL BAR;DOUBLE VERTICAL LINE;DOUBLE LOW LINE;
   LEFT SINGLE QUOTATION MARK;RIGHT SINGLE QUOTATION MARK;SINGLE LOW-9 QUOTATION MARK;
   SINGLE HIGH-REVERSED-9 QUOTATION MARK;LEFT DOUBLE QUOTATION MARK;RIGHT DOUBLE QUOTATION MARK;
   DOUBLE LOW-9 QUOTATION MARK;DOUBLE HIGH-REVERSED-9 QUOTATION MARK;DAGGER;DOUBLE DAGGER;BULLET;
   TRIANGULAR BULLET;ONE DOT LEADER;TWO DOT LEADER;HORIZONTAL ELLIPSIS;HYPHENATION POINT;
   LINE SEPARATOR;PARAGRAPH SEPARATOR;LEFT-TO-RIGHT EMBEDDING;RIGHT-TO-LEFT EMBEDDING;
   POP DIRECTIONAL FORMATTING;LEFT-TO-RIGHT OVERRIDE;RIGHT-TO-LEFT OVERRIDE;
   NARROW NO-BREAK SPACE;PER MILLE SIGN;PER TEN THOUSAND SIGN;PRIME;DOUBLE PRIME;TRIPLE PRIME;
   REVERSED PRIME;REVERSED DOUBLE PRIME;REVERSED TRIPLE PRIME;CARET;
   SINGLE LEFT-POINTING ANGLE QUOTATION MARK;SINGLE RIGHT-POINTING ANGLE QUOTATION MARK;
   REFERENCE MARK;DOUBLE EXCLAMATION MARK;INTERROBANG;OVERLINE;UNDERTIE;CHARACTER TIE;
   CARET INSERTION POINT;ASTERISM;HYPHEN BULLET;FRACTION SLASH;LEFT SQUARE BRACKET WITH QUILL;
   RIGHT SQUARE BRACKET WITH QUILL;DOUBLE QUESTION MARK;QUESTION EXCLAMATION MARK;
   EXCLAMATION QUESTION MARK;TIRONIAN SIGN ET;REVERSED PILCROW SIGN;BLACK LEFTWARDS BULLET;
   BLACK RIGHTWARDS BULLET;LOW ASTERISK;REVERSED SEMICOLON;CLOSE UP;
   TWO ASTERISKS ALIGNED VERTICALLY;COMMERCIAL MINUS SIGN;SWUNG DASH;INVERTED UNDERTIE;
   FLOWER PUNCTUATION MARK;THREE DOT PUNCTUATION;QUADRUPLE PRIME;FOUR DOT PUNCTUATION;
   FIVE DOT PUNCTUATION;TWO DOT PUNCTUATION;FOUR DOT MARK;DOTTED CROSS;TRICOLON;
   VERTICAL FOUR DOTS;MEDIUM MATHEMATICAL SPACE;WORD JOINER;FUNCTION APPLICATION;INVISIBLE TIMES;
   INVISIBLE SEPARATOR;INVISIBLE PLUS;;LEFT-TO-RIGHT ISOLATE;RIGHT-TO-LEFT ISOLATE;
   FIRST STRONG ISOLATE;POP DIRECTIONAL ISOLATE;INHIBIT SYMMETRIC SWAPPING;
   ACTIVATE SYMMETRIC SWAPPING;INHIBIT ARABIC FORM SHAPING;ACTIVATE ARABIC FORM SHAPING;
   NATIONAL DIGIT SHAPES;NOMINAL DIGIT SHAPES"⟩,
  ⟨0x2070,
  "SUPERSCRIPT ZERO;SUPERSCRIPT LATIN SMALL LETTER I;;;SUPERSCRIPT FOUR;SUPERSCRIPT FIVE;
   SUPERSCRIPT SIX;SUPERSCRIPT SEVEN;SUPERSCRIPT EIGHT;SUPERSCRIPT NINE;SUPERSCRIPT PLUS SIGN;
   SUPERSCRIPT MINUS;SUPERSCRIPT EQUALS SIGN;SUPERSCRIPT LEFT PARENTHESIS;
   SUPERSCRIPT RIGHT PARENTHESIS;SUPERSCRIPT LATIN SMALL LETTER N;SUBSCRIPT ZERO;SUBSCRIPT ONE;
   SUBSCRIPT TWO;SUBSCRIPT THREE;SUBSCRIPT FOUR;SUBSCRIPT FIVE;SUBSCRIPT SIX;SUBSCRIPT SEVEN;
   SUBSCRIPT EIGHT;SUBSCRIPT NINE;SUBSCRIPT PLUS SIGN;SUBSCRIPT MINUS;SUBSCRIPT EQUALS SIGN;
   SUBSCRIPT LEFT PARENTHESIS;SUBSCRIPT RIGHT PARENTHESIS;;LATIN SUBSCRIPT SMALL LETTER A;
   LATIN SUBSCRIPT SMALL LETTER E;LATIN SUBSCRIPT SMALL LETTER O;LATIN SUBSCRIPT SMALL LETTER X;
   LATIN SUBSCRIPT SMALL LETTER SCHWA;LATIN SUBSCRIPT SMALL LETTER H;
   LATIN SUBSCRIPT SMALL LETTER K;LATIN SUBSCRIPT SMALL LETTER L;LATIN SUBSCRIPT SMALL LETTER M;
   LATIN SUBSCRIPT SMALL LETTER N;LATIN SUBSCRIPT SMALL LETTER P;LATIN SUBSCRIPT SMALL LETTER S;
   LATIN SUBSCRIPT SMALL LETTER T"⟩,
  ⟨0x20A0,
  "EURO-CURRENCY SIGN;COLON SIGN;CRUZEIRO SIGN;FRENCH FRANC SIGN;LIRA SIGN;MILL SIGN;NAIRA SIGN;
   PESETA SIGN;RUPEE SIGN;WON SIGN;NEW SHEQEL SIGN;DONG SIGN;EURO SIGN;KIP SIGN;TUGRIK SIGN;
   DRACHMA SIGN;GERMAN PENNY SIGN;PESO SIGN;GUARANI SIGN;AUSTRAL SIGN;HRYVNIA SIGN;CEDI SIGN;
   LIVRE TOURNOIS SIGN;SPESMILO SIGN;TENGE SIGN;INDIAN RUPEE SIGN;TURKISH LIRA SIGN;
   NORDIC MARK SIGN;MANAT SIGN;RUBLE SIGN;LARI SIGN;BITCOIN SIGN;SOM SIGN"⟩,
  ⟨0x2100,
  "ACCOUNT OF;ADDRESSED TO THE SUBJECT;DOUBLE-STRUCK CAPITAL C;DEGREE CELSIUS;CENTRE LINE SYMBOL;
   CARE OF;CADA UNA;EULER CONSTANT;SCRUPLE;DEGREE FAHRENHEIT;SCRIPT SMALL G;SCRIPT CAPITAL H;
   BLACK-LETTER CAPITAL H;DOUBLE-STRUCK CAPITAL H;PLANCK CONSTANT;PLANCK CONSTANT OVER TWO PI;
   SCRIPT CAPITAL I;BLACK-LETTER CAPITAL I;SCRIPT CAPITAL L;SCRIPT SMALL L;L B BAR SYMBOL;
   DOUBLE-STRUCK CAPITAL N;NUMERO SIGN;SOUND RECORDING COPYRIGHT;SCRIPT CAPITAL P;
   DOUBLE-STRUCK CAPITAL P;DOUBLE-STRUCK CAPITAL Q;SCRIPT CAPITAL R;BLACK-LETTER CAPITAL R;
   DOUBLE-STRUCK CAPITAL R;PRESCRIPTION TAKE;RESPONSE;SERVICE MARK;TELEPHONE SIGN;
   TRADE MARK SIGN;VERSICLE;DOUBLE-STRUCK CAPITAL Z;OUNCE SIGN;OHM SIGN;INVERTED OHM SIGN;
   BLACK-LETTER CAPITAL Z;TURNED GREEK SMALL LETTER IOTA;KELVIN SIGN;ANGSTROM SIGN;
   SCRIPT CAPITAL B;BLACK-LETTER CAPITAL C;ESTIMATED SYMBOL;SCRIPT SMALL E;SCRIPT CAPITAL E;
   SCRIPT CAPITAL F;TURNED CAPITAL F;SCRIPT CAPITAL M;SCRIPT SMALL O;ALEF SYMBOL;BET SYMBOL;
   GIMEL SYMBOL;DALET SYMBOL;INFORMATION SOURCE;ROTATED CAPITAL Q;FACSIMILE SIGN;
   DOUBLE-STRUCK SMALL PI;DOUBLE-STRUCK SMALL GAMMA;DOUBLE-STRUCK CAPITAL GAMMA;
   DOUBLE-STRUCK CAPITAL PI;DOUBLE-STRUCK N-ARY SUMMATION;TURNED SANS-SERIF CAPITAL G;
   TURNED SANS-SERIF CAPITAL L;REVERSED SANS-SERIF CAPITAL L;TURNED SANS-SERIF CAPITAL Y;
   DOUBLE-STRUCK ITALIC CAPITAL D;DOUBLE-STRUCK ITALIC SMALL D;DOUBLE-STRUCK ITALIC SMALL E;
   DOUBLE-STRUCK ITALIC SMALL I;DOUBLE-STRUCK ITALIC SMALL J;PROPERTY LINE;TURNED AMPERSAND;
   PER SIGN;AKTIESELSKAB;TURNED SMALL F;SYMBOL FOR SAMARITAN SOURCE;VULGAR FRACTION ONE SEVENTH;
   VULGAR FRACTION ONE NINTH;VULGAR FRACTION ONE TENTH;VULGAR FRACTION ONE THIRD;
   VULGAR FRACTION TWO THIRDS;VULGAR FRACTION ONE FIFTH;VULGAR FRACTION TWO FIFTHS;
   VULGAR FRACTION THREE FIFTHS;VULGAR FRACTION FOUR FIFTHS;VULGAR FRACTION ONE SIXTH;
   VULGAR FRACTION FIVE SIXTHS;VULGAR FRACTION ONE EIGHTH;VULGAR FRACTION THREE EIGHTHS;
   VULGAR FRACTION FIVE EIGHTHS;VULGAR FRACTION SEVEN EIGHTHS;FRACTION NUMERATOR ONE;qONE;qTWO;
   qTHREE;qFOUR;qFIVE;qSIX;qSEVEN;qEIGHT;qNINE;qTEN;qELEVEN;qTWELVE;qFIFTY;qONE HUNDRED;
   qFIVE HUNDRED;qONE THOUSAND;rONE;rTWO;rTHREE;rFOUR;rFIVE;rSIX;rSEVEN;rEIGHT;rNINE;rTEN;
   rELEVEN;rTWELVE;rFIFTY;rONE HUNDRED;rFIVE HUNDRED;rONE THOUSAND;qONE THOUSAND C D;
   qFIVE THOUSAND;qTEN THOUSAND;qREVERSED ONE HUNDRED;bREVERSED C;qSIX LATE FORM;
   qFIFTY EARLY FORM;qFIFTY THOUSAND;qONE HUNDRED THOUSAND;VULGAR FRACTION ZERO THIRDS;
   TURNED DIGIT TWO;TURNED DIGIT THREE"⟩,
  ⟨0x2190,
  "LEFTWARDS ARROW;UPWARDS ARROW;RIGHTWARDS ARROW;DOWNWARDS ARROW;LEFT RIGHT ARROW;UP DOWN ARROW;
   NORTH WEST ARROW;NORTH EAST ARROW;SOUTH EAST ARROW;SOUTH WEST ARROW;
   LEFTWARDS ARROW WITH STROKE;RIGHTWARDS ARROW WITH STROKE;LEFTWARDS WAVE ARROW;
   RIGHTWARDS WAVE ARROW;LEFTWARDS TWO HEADED ARROW;UPWARDS TWO HEADED ARROW;
   RIGHTWARDS TWO HEADED ARROW;DOWNWARDS TWO HEADED ARROW;LEFTWARDS ARROW WITH TAIL;
   RIGHTWARDS ARROW WITH TAIL;LEFTWARDS ARROW FROM BAR;UPWARDS ARROW FROM BAR;
   RIGHTWARDS ARROW FROM BAR;DOWNWARDS ARROW FROM BAR;UP DOWN ARROW WITH BASE;
   LEFTWARDS ARROW WITH HOOK;RIGHTWARDS ARROW WITH HOOK;LEFTWARDS ARROW WITH LOOP;
   RIGHTWARDS ARROW WITH LOOP;LEFT RIGHT WAVE ARROW;LEFT RIGHT ARROW WITH STROKE;
   DOWNWARDS ZIGZAG ARROW;UPWARDS ARROW WITH TIP LEFTWARDS;UPWARDS ARROW WITH TIP RIGHTWARDS;
   DOWNWARDS ARROW WITH TIP LEFTWARDS;DOWNWARDS ARROW WITH TIP RIGHTWARDS;
   RIGHTWARDS ARROW WITH CORNER DOWNWARDS;DOWNWARDS ARROW WITH CORNER LEFTWARDS;
   ANTICLOCKWISE TOP SEMICIRCLE ARROW;CLOCKWISE TOP SEMICIRCLE ARROW;
   NORTH WEST ARROW TO LONG BAR;LEFTWARDS ARROW TO BAR OVER RIGHTWARDS ARROW TO BAR;
   ANTICLOCKWISE OPEN CIRCLE ARROW;CLOCKWISE OPEN CIRCLE ARROW;
   LEFTWARDS HARPOON WITH BARB UPWARDS;LEFTWARDS HARPOON WITH BARB DOWNWARDS;
   UPWARDS HARPOON WITH BARB RIGHTWARDS;UPWARDS HARPOON WITH BARB LEFTWARDS;
   RIGHTWARDS HARPOON WITH BARB UPWARDS;RIGHTWARDS HARPOON WITH BARB DOWNWARDS;
   DOWNWARDS HARPOON WITH BARB RIGHTWARDS;DOWNWARDS HARPOON WITH BARB LEFTWARDS;
   RIGHTWARDS ARROW OVER LEFTWARDS ARROW;UPWARDS ARROW LEFTWARDS OF DOWNWARDS ARROW;
   LEFTWARDS ARROW OVER RIGHTWARDS ARROW;LEFTWARDS PAIRED ARROWS;UPWARDS PAIRED ARROWS;
   RIGHTWARDS PAIRED ARROWS;DOWNWARDS PAIRED ARROWS;LEFTWARDS HARPOON OVER RIGHTWARDS HARPOON;
   RIGHTWARDS HARPOON OVER LEFTWARDS HARPOON;LEFTWARDS DOUBLE ARROW WITH STROKE;
   LEFT RIGHT DOUBLE ARROW WITH STROKE;RIGHTWARDS DOUBLE ARROW WITH STROKE;
   LEFTWARDS DOUBLE ARROW;UPWARDS DOUBLE ARROW;RIGHTWARDS DOUBLE ARROW;DOWNWARDS DOUBLE ARROW;
   LEFT RIGHT DOUBLE ARROW;UP DOWN DOUBLE ARROW;NORTH WEST DOUBLE ARROW;NORTH EAST DOUBLE ARROW;
   SOUTH EAST DOUBLE ARROW;SOUTH WEST DOUBLE ARROW;LEFTWARDS TRIPLE ARROW;
   RIGHTWARDS TRIPLE ARROW;LEFTWARDS SQUIGGLE ARROW;RIGHTWARDS SQUIGGLE ARROW;
   UPWARDS ARROW WITH DOUBLE STROKE;DOWNWARDS ARROW WITH DOUBLE STROKE;LEFTWARDS DASHED ARROW;
   UPWARDS DASHED ARROW;RIGHTWARDS DASHED ARROW;DOWNWARDS DASHED ARROW;LEFTWARDS ARROW TO BAR;
   RIGHTWARDS ARROW TO BAR;LEFTWARDS WHITE ARROW;UPWARDS WHITE ARROW;RIGHTWARDS WHITE ARROW;
   DOWNWARDS WHITE ARROW;UPWARDS WHITE ARROW FROM BAR;UPWARDS WHITE ARROW ON PEDESTAL;
   UPWARDS WHITE ARROW ON PEDESTAL WITH HORIZONTAL BAR;
   UPWARDS WHITE ARROW ON PEDESTAL WITH VERTICAL BAR;UPWARDS WHITE DOUBLE ARROW;
   UPWARDS WHITE DOUBLE ARROW ON PEDESTAL;RIGHTWARDS WHITE ARROW FROM WALL;
   NORTH WEST ARROW TO CORNER;SOUTH EAST ARROW TO CORNER;UP DOWN WHITE ARROW;
   RIGHT ARROW WITH SMALL CIRCLE;DOWNWARDS ARROW LEFTWARDS OF UPWARDS ARROW;
   THREE RIGHTWARDS ARROWS;LEFTWARDS ARROW WITH VERTICAL STROKE;
   RIGHTWARDS ARROW WITH VERTICAL STROKE;LEFT RIGHT ARROW WITH VERTICAL STROKE;
   LEFTWARDS ARROW WITH DOUBLE VERTICAL STROKE;RIGHTWARDS ARROW WITH DOUBLE VERTICAL STROKE;
   LEFT RIGHT ARROW WITH DOUBLE VERTICAL STROKE;LEFTWARDS OPEN-HEADED ARROW;
   RIGHTWARDS OPEN-HEADED ARROW;LEFT RIGHT OPEN-HEADED ARROW"⟩,
  ⟨0x2200,
  "FOR ALL;COMPLEMENT;PARTIAL DIFFERENTIAL;THERE EXISTS;THERE DOES NOT EXIST;EMPTY SET;INCREMENT;
   NABLA;ELEMENT OF;NOT AN ELEMENT OF;SMALL ELEMENT OF;CONTAINS AS MEMBER;
   DOES NOT CONTAIN AS MEMBER;SMALL CONTAINS AS MEMBER;END OF PROOF;N-ARY PRODUCT;
   N-ARY COPRODUCT;N-ARY SUMMATION;MINUS SIGN;MINUS-OR-PLUS SIGN;DOT PLUS;DIVISION SLASH;
   SET MINUS;ASTERISK OPERATOR;RING OPERATOR;BULLET OPERATOR;SQUARE ROOT;CUBE ROOT;FOURTH ROOT;
   PROPORTIONAL TO;INFINITY;RIGHT ANGLE;ANGLE;MEASURED ANGLE;SPHERICAL ANGLE;DIVIDES;
   DOES NOT DIVIDE;PARALLEL TO;NOT PARALLEL TO;LOGICAL AND;LOGICAL OR;INTERSECTION;UNION;
   INTEGRAL;DOUBLE INTEGRAL;TRIPLE INTEGRAL;CONTOUR INTEGRAL;SURFACE INTEGRAL;VOLUME INTEGRAL;
   CLOCKWISE INTEGRAL;CLOCKWISE CONTOUR INTEGRAL;ANTICLOCKWISE CONTOUR INTEGRAL;THEREFORE;
   BECAUSE;RATIO;PROPORTION;DOT MINUS;EXCESS;GEOMETRIC PROPORTION;HOMOTHETIC;TILDE OPERATOR;
   REVERSED TILDE;INVERTED LAZY S;SINE WAVE;WREATH PRODUCT;NOT TILDE;MINUS TILDE;
   ASYMPTOTICALLY EQUAL TO;NOT ASYMPTOTICALLY EQUAL TO;APPROXIMATELY EQUAL TO;
   APPROXIMATELY BUT NOT ACTUALLY EQUAL TO;NEITHER APPROXIMATELY NOR ACTUALLY EQUAL TO;
   ALMOST EQUAL TO;NOT ALMOST EQUAL TO;ALMOST EQUAL OR EQUAL TO;TRIPLE TILDE;ALL EQUAL TO;
   EQUIVALENT TO;GEOMETRICALLY EQUIVALENT TO;DIFFERENCE BETWEEN;APPROACHES THE LIMIT;
   GEOMETRICALLY EQUAL TO;APPROXIMATELY EQUAL TO OR THE IMAGE OF;
   IMAGE OF OR APPROXIMATELY EQUAL TO;COLON EQUALS;EQUALS COLON;RING IN EQUAL TO;RING EQUAL TO;
   CORRESPONDS TO;ESTIMATES;EQUIANGULAR TO;STAR EQUALS;DELTA EQUAL TO;EQUAL TO BY DEFINITION;
   MEASURED BY;QUESTIONED EQUAL TO;NOT EQUAL TO;IDENTICAL TO;NOT IDENTICAL TO;
   STRICTLY EQUIVALENT TO;LESS-THAN OR EQUAL TO;GREATER-THAN OR EQUAL TO;LESS-THAN OVER EQUAL TO;
   GREATER-THAN OVER EQUAL TO;LESS-THAN BUT NOT EQUAL TO;GREATER-THAN BUT NOT EQUAL TO;
   MUCH LESS-THAN;MUCH GREATER-THAN;BETWEEN;NOT EQUIVALENT TO;NOT LESS-THAN;NOT GREATER-THAN;
   NEITHER LESS-THAN NOR EQUAL TO;NEITHER GREATER-THAN NOR EQUAL TO;LESS-THAN OR EQUIVALENT TO;
   GREATER-THAN OR EQUIVALENT TO;NEITHER LESS-THAN NOR EQUIVALENT TO;
   NEITHER GREATER-THAN NOR EQUIVALENT TO;LESS-THAN OR GREATER-THAN;GREATER-THAN OR LESS-THAN;
   NEITHER LESS-THAN NOR GREATER-THAN;NEITHER GREATER-THAN NOR LESS-THAN;PRECEDES;SUCCEEDS;
   PRECEDES OR EQUAL TO;SUCCEEDS OR EQUAL TO;PRECEDES OR EQUIVALENT TO;SUCCEEDS OR EQUIVALENT TO;
   DOES NOT PRECEDE;DOES NOT SUCCEED;SUBSET OF;SUPERSET OF;NOT A SUBSET OF;NOT A SUPERSET OF;
   SUBSET OF OR EQUAL TO;SUPERSET OF OR EQUAL TO;NEITHER A SUBSET OF NOR EQUAL TO;
   NEITHER A SUPERSET OF NOR EQUAL TO;SUBSET OF WITH NOT EQUAL TO;SUPERSET OF WITH NOT EQUAL TO;
   MULTISET;MULTISET MULTIPLICATION;MULTISET UNION;SQUARE IMAGE OF;;
   SQUARE IMAGE OF OR EQUAL TO;;SQUARE CAP;SQUARE CUP;kPLUS;kMINUS;
   kTIMES;kDIVISION SLASH;kDOT OPERATOR;kRING OPERATOR;kASTERISK OPERATOR;kEQUALS;kDASH;
   SQUARED PLUS;SQUARED MINUS;SQUARED TIMES;SQUARED DOT OPERATOR;RIGHT TACK;LEFT TACK;DOWN TACK;
   UP TACK;ASSERTION;MODELS;TRUE;FORCES;TRIPLE VERTICAL BAR RIGHT TURNSTILE;
   DOUBLE VERTICAL BAR DOUBLE RIGHT TURNSTILE;DOES NOT PROVE;NOT TRUE;DOES NOT FORCE;
   NEGATED DOUBLE VERTICAL BAR DOUBLE RIGHT TURNSTILE;PRECEDES UNDER RELATION;
   SUCCEEDS UNDER RELATION;NORMAL SUBGROUP OF;CONTAINS AS NORMAL SUBGROUP;
   NORMAL SUBGROUP OF OR EQUAL TO;CONTAINS AS NORMAL SUBGROUP OR EQUAL TO;;IMAGE OF;
   MULTIMAP;HERMITIAN CONJUGATE MATRIX;INTERCALATE;XOR;NAND;NOR;RIGHT ANGLE WITH ARC;
   RIGHT TRIANGLE;N-ARY LOGICAL AND;N-ARY LOGICAL OR;N-ARY INTERSECTION;N-ARY UNION;
   DIAMOND OPERATOR;DOT OPERATOR;STAR OPERATOR;DIVISION TIMES;BOWTIE;
   LEFT NORMAL FACTOR SEMIDIRECT PRODUCT;RIGHT NORMAL FACTOR SEMIDIRECT PRODUCT;
   LEFT SEMIDIRECT PRODUCT;RIGHT SEMIDIRECT PRODUCT;REVERSED TILDE EQUALS;CURLY LOGICAL OR;
   CURLY LOGICAL AND;DOUBLE SUBSET;DOUBLE SUPERSET;DOUBLE INTERSECTION;DOUBLE UNION;PITCHFORK;
   EQUAL AND PARALLEL TO;LESS-THAN WITH DOT;GREATER-THAN WITH DOT;VERY MUCH LESS-THAN;
   VERY MUCH GREATER-THAN;LESS-THAN EQUAL TO OR GREATER-THAN;GREATER-THAN EQUAL TO OR LESS-THAN;
   EQUAL TO OR LESS-THAN;EQUAL TO OR GREATER-THAN;EQUAL TO OR PRECEDES;EQUAL TO OR SUCCEEDS;
   DOES NOT PRECEDE OR EQUAL;DOES NOT SUCCEED OR EQUAL;NOT SQUARE IMAGE OF OR EQUAL TO;
   ;SQUARE IMAGE OF OR NOT EQUAL TO;
   ;LESS-THAN BUT NOT EQUIVALENT TO;
   GREATER-THAN BUT NOT EQUIVALENT TO;PRECEDES BUT NOT EQUIVALENT TO;
   SUCCEEDS BUT NOT EQUIVALENT TO;NOT NORMAL SUBGROUP OF;DOES NOT CONTAIN AS NORMAL SUBGROUP;
   NOT NORMAL SUBGROUP OF OR EQUAL TO;DOES NOT CONTAIN AS NORMAL SUBGROUP OR EQUAL;
   VERTICAL ELLIPSIS;MIDLINE HORIZONTAL ELLIPSIS;UP RIGHT DIAGONAL ELLIPSIS;
   DOWN RIGHT DIAGONAL ELLIPSIS;ELEMENT OF WITH LONG HORIZONTAL STROKE;
   ELEMENT OF WITH VERTICAL BAR AT END OF HORIZONTAL STROKE;
   SMALL ELEMENT OF WITH VERTICAL BAR AT END OF HORIZONTAL STROKE;ELEMENT OF WITH DOT ABOVE;
   ELEMENT OF WITH OVERBAR;SMALL ELEMENT OF WITH OVERBAR;ELEMENT OF WITH UNDERBAR;
   ELEMENT OF WITH TWO HORIZONTAL STROKES;CONTAINS WITH LONG HORIZONTAL STROKE;
   CONTAINS WITH VERTICAL BAR AT END OF HORIZONTAL STROKE;
   SMALL CONTAINS WITH VERTICAL BAR AT END OF HORIZONTAL STROKE;CONTAINS WITH OVERBAR;
   SMALL CONTAINS WITH OVERBAR;Z NOTATION BAG MEMBERSHIP"⟩,
  ⟨0x2300,
  "DIAMETER SIGN;ELECTRIC ARROW;HOUSE;UP ARROWHEAD;DOWN ARROWHEAD;PROJECTIVE;PERSPECTIVE;
   WAVY LINE;LEFT CEILING;RIGHT CEILING;LEFT FLOOR;RIGHT FLOOR;BOTTOM RIGHT CROP;
   BOTTOM LEFT CROP;TOP RIGHT CROP;TOP LEFT CROP;REVERSED NOT SIGN;SQUARE LOZENGE;ARC;SEGMENT;
   SECTOR;TELEPHONE RECORDER;POSITION INDICATOR;VIEWDATA SQUARE;PLACE OF INTEREST SIGN;
   TURNED NOT SIGN;WATCH;HOURGLASS;TOP LEFT CORNER;TOP RIGHT CORNER;BOTTOM LEFT CORNER;
   BOTTOM RIGHT CORNER;TOP HALF INTEGRAL;BOTTOM HALF INTEGRAL;FROWN;SMILE;
   UP ARROWHEAD BETWEEN TWO HORIZONTAL BARS;OPTION KEY;ERASE TO THE RIGHT;X IN A RECTANGLE BOX;
   KEYBOARD;LEFT-POINTING ANGLE BRACKET;RIGHT-POINTING ANGLE BRACKET;ERASE TO THE LEFT;
   BENZENE RING;CYLINDRICITY;ALL AROUND-PROFILE;SYMMETRY;TOTAL RUNOUT;DIMENSION ORIGIN;
   CONICAL TAPER;SLOPE;COUNTERBORE;COUNTERSINK;mI-BEAM;mSQUISH QUAD;mQUAD EQUAL;mQUAD DIVIDE;
   mQUAD DIAMOND;mQUAD JOT;mQUAD CIRCLE;mCIRCLE STILE;mCIRCLE JOT;mSLASH BAR;mBACKSLASH BAR;
   mQUAD SLASH;mQUAD BACKSLASH;mQUAD LESS-THAN;mQUAD GREATER-THAN;mLEFTWARDS VANE;
   mRIGHTWARDS VANE;mQUAD LEFTWARDS ARROW;mQUAD RIGHTWARDS ARROW;mCIRCLE BACKSLASH;
   mDOWN TACK UNDERBAR;mDELTA STILE;mQUAD DOWN CARET;mQUAD DELTA;mDOWN TACK JOT;mUPWARDS VANE;
   mQUAD UPWARDS ARROW;mUP TACK OVERBAR;mDEL STILE;mQUAD UP CARET;mQUAD DEL;mUP TACK JOT;
   mDOWNWARDS VANE;mQUAD DOWNWARDS ARROW;mQUOTE UNDERBAR;mDELTA UNDERBAR;mDIAMOND UNDERBAR;
   mJOT UNDERBAR;mCIRCLE UNDERBAR;mUP SHOE JOT;mQUOTE QUAD;mCIRCLE STAR;mQUAD COLON;
   mUP TACK DIAERESIS;mDEL DIAERESIS;mSTAR DIAERESIS;mJOT DIAERESIS;mCIRCLE DIAERESIS;
   mDOWN SHOE STILE;mLEFT SHOE STILE;mTILDE DIAERESIS;mGREATER-THAN DIAERESIS;mCOMMA BAR;
   mDEL TILDE;mZILDE;mSTILE TILDE;mSEMICOLON UNDERBAR;mQUAD NOT EQUAL;mQUAD QUESTION;
   mDOWN CARET TILDE;mUP CARET TILDE;mIOTA;mRHO;mOMEGA;mALPHA UNDERBAR;mEPSILON UNDERBAR;
   mIOTA UNDERBAR;mOMEGA UNDERBAR;mALPHA;NOT CHECK MARK;RIGHT ANGLE WITH DOWNWARDS ZIGZAG ARROW;
   SHOULDERED OPEN BOX;BELL SYMBOL;VERTICAL LINE WITH MIDDLE DOT;INSERTION SYMBOL;
   CONTINUOUS UNDERLINE SYMBOL;DISCONTINUOUS UNDERLINE SYMBOL;EMPHASIS SYMBOL;COMPOSITION SYMBOL;
   WHITE SQUARE WITH CENTRE VERTICAL LINE;ENTER SYMBOL;ALTERNATIVE KEY SYMBOL;HELM SYMBOL;
   kHORIZONTAL BAR WITH NOTCH;kTRIANGLE DOWN;BROKEN CIRCLE WITH NORTHWEST ARROW;UNDO SYMBOL;
   MONOSTABLE SYMBOL;HYSTERESIS SYMBOL;OPEN-CIRCUIT-OUTPUT H-TYPE SYMBOL;
   OPEN-CIRCUIT-OUTPUT L-TYPE SYMBOL;PASSIVE-PULL-DOWN-OUTPUT SYMBOL;
   PASSIVE-PULL-UP-OUTPUT SYMBOL;DIRECT CURRENT SYMBOL FORM TWO;SOFTWARE-FUNCTION SYMBOL;mQUAD;
   DECIMAL SEPARATOR KEY SYMBOL;PREVIOUS PAGE;NEXT PAGE;PRINT SCREEN SYMBOL;CLEAR SCREEN SYMBOL;
   LEFT PARENTHESIS UPPER HOOK;LEFT PARENTHESIS EXTENSION;LEFT PARENTHESIS LOWER HOOK;
   RIGHT PARENTHESIS UPPER HOOK;RIGHT PARENTHESIS EXTENSION;RIGHT PARENTHESIS LOWER HOOK;
   LEFT SQUARE BRACKET UPPER CORNER;LEFT SQUARE BRACKET EXTENSION;
   LEFT SQUARE BRACKET LOWER CORNER;RIGHT SQUARE BRACKET UPPER CORNER;
   RIGHT SQUARE BRACKET EXTENSION;RIGHT SQUARE BRACKET LOWER CORNER;
   LEFT CURLY BRACKET UPPER HOOK;LEFT CURLY BRACKET MIDDLE PIECE;LEFT CURLY BRACKET LOWER HOOK;
   CURLY BRACKET EXTENSION;RIGHT CURLY BRACKET UPPER HOOK;RIGHT CURLY BRACKET MIDDLE PIECE;
   RIGHT CURLY BRACKET LOWER HOOK;INTEGRAL EXTENSION;HORIZONTAL LINE EXTENSION;
   UPPER LEFT OR LOWER RIGHT CURLY BRACKET SECTION;
   UPPER RIGHT OR LOWER LEFT CURLY BRACKET SECTION;SUMMATION TOP;SUMMATION BOTTOM;
   TOP SQUARE BRACKET;BOTTOM SQUARE BRACKET;BOTTOM SQUARE BRACKET OVER TOP SQUARE BRACKET;
   RADICAL SYMBOL BOTTOM;LEFT VERTICAL BOX LINE;RIGHT VERTICAL BOX LINE;HORIZONTAL SCAN LINE-1;
   HORIZONTAL SCAN LINE-3;HORIZONTAL SCAN LINE-7;HORIZONTAL SCAN LINE-9;
   DENTISTRY SYMBOL LIGHT VERTICAL AND TOP RIGHT;
   DENTISTRY SYMBOL LIGHT VERTICAL AND BOTTOM RIGHT;DENTISTRY SYMBOL LIGHT VERTICAL WITH CIRCLE;
   DENTISTRY SYMBOL LIGHT DOWN AND HORIZONTAL WITH CIRCLE;
   DENTISTRY SYMBOL LIGHT UP AND HORIZONTAL WITH CIRCLE;
   DENTISTRY SYMBOL LIGHT VERTICAL WITH TRIANGLE;
   DENTISTRY SYMBOL LIGHT DOWN AND HORIZONTAL WITH TRIANGLE;
   DENTISTRY SYMBOL LIGHT UP AND HORIZONTAL WITH TRIANGLE;
   DENTISTRY SYMBOL LIGHT VERTICAL AND WAVE;DENTISTRY SYMBOL LIGHT DOWN AND HORIZONTAL WITH WAVE;
   DENTISTRY SYMBOL LIGHT UP AND HORIZONTAL WITH WAVE;DENTISTRY SYMBOL LIGHT DOWN AND HORIZONTAL;
   DENTISTRY SYMBOL LIGHT UP AND HORIZONTAL;DENTISTRY SYMBOL LIGHT VERTICAL AND TOP LEFT;
   DENTISTRY SYMBOL LIGHT VERTICAL AND BOTTOM LEFT;SQUARE FOOT;RETURN SYMBOL;EJECT SYMBOL;
   VERTICAL LINE EXTENSION;METRICAL BREVE;METRICAL LONG OVER SHORT;METRICAL SHORT OVER LONG;
   METRICAL LONG OVER TWO SHORTS;METRICAL TWO SHORTS OVER LONG;METRICAL TWO SHORTS JOINED;
   METRICAL TRISEME;METRICAL TETRASEME;METRICAL PENTASEME;EARTH GROUND;FUSE;TOP PARENTHESIS;
   BOTTOM PARENTHESIS;TOP CURLY BRACKET;BOTTOM CURLY BRACKET;TOP TORTOISE SHELL BRACKET;
   BOTTOM TORTOISE SHELL BRACKET;WHITE TRAPEZIUM;BENZENE RING WITH CIRCLE;STRAIGHTNESS;FLATNESS;
   AC CURRENT;ELECTRICAL INTERSECTION;DECIMAL EXPONENT SYMBOL;
   BLACK RIGHT-POINTING DOUBLE TRIANGLE;BLACK LEFT-POINTING DOUBLE TRIANGLE;
   BLACK UP-POINTING DOUBLE TRIANGLE;BLACK DOWN-POINTING DOUBLE TRIANGLE;
   BLACK RIGHT-POINTING DOUBLE TRIANGLE WITH VERTICAL BAR;
   BLACK LEFT-POINTING DOUBLE TRIANGLE WITH VERTICAL BAR;
   BLACK RIGHT-POINTING TRIANGLE WITH DOUBLE VERTICAL BAR;ALARM CLOCK;STOPWATCH;TIMER CLOCK;
   HOURGLASS WITH FLOWING SAND;BLACK MEDIUM LEFT-POINTING TRIANGLE;
   BLACK MEDIUM RIGHT-POINTING TRIANGLE;BLACK MEDIUM UP-POINTING TRIANGLE;
   BLACK MEDIUM DOWN-POINTING TRIANGLE;DOUBLE VERTICAL BAR;BLACK SQUARE FOR STOP;
   BLACK CIRCLE FOR RECORD;POWER SYMBOL;POWER ON-OFF SYMBOL;POWER ON SYMBOL;POWER SLEEP SYMBOL;
   OBSERVER EYE SYMBOL"⟩,
  ⟨0x2460,
  "kDIGIT ONE;kDIGIT TWO;kDIGIT THREE;kDIGIT FOUR;kDIGIT FIVE;kDIGIT SIX;kDIGIT SEVEN;
   kDIGIT EIGHT;kDIGIT NINE;kNUMBER TEN;kNUMBER ELEVEN;kNUMBER TWELVE;kNUMBER THIRTEEN;
   kNUMBER FOURTEEN;kNUMBER FIFTEEN;kNUMBER SIXTEEN;kNUMBER SEVENTEEN;kNUMBER EIGHTEEN;
   kNUMBER NINETEEN;kNUMBER TWENTY;lDIGIT ONE;lDIGIT TWO;lDIGIT THREE;lDIGIT FOUR;lDIGIT FIVE;
   lDIGIT SIX;lDIGIT SEVEN;lDIGIT EIGHT;lDIGIT NINE;lNUMBER TEN;lNUMBER ELEVEN;lNUMBER TWELVE;
   lNUMBER THIRTEEN;lNUMBER FOURTEEN;lNUMBER FIFTEEN;lNUMBER SIXTEEN;lNUMBER SEVENTEEN;
   lNUMBER EIGHTEEN;lNUMBER NINETEEN;lNUMBER TWENTY;DIGIT ONE FULL STOP;DIGIT TWO FULL STOP;
   DIGIT THREE FULL STOP;DIGIT FOUR FULL STOP;DIGIT FIVE FULL STOP;DIGIT SIX FULL STOP;
   DIGIT SEVEN FULL STOP;DIGIT EIGHT FULL STOP;DIGIT NINE FULL STOP;NUMBER TEN FULL STOP;
   NUMBER ELEVEN FULL STOP;NUMBER TWELVE FULL STOP;NUMBER THIRTEEN FULL STOP;
   NUMBER FOURTEEN FULL STOP;NUMBER FIFTEEN FULL STOP;NUMBER SIXTEEN FULL STOP;
   NUMBER SEVENTEEN FULL STOP;NUMBER EIGHTEEN FULL STOP;NUMBER NINETEEN FULL STOP;
   NUMBER TWENTY FULL STOP;lLATIN SMALL LETTER A;lLATIN SMALL LETTER B;lLATIN SMALL LETTER C;
   lLATIN SMALL LETTER D;lLATIN SMALL LETTER E;lLATIN SMALL LETTER F;lLATIN SMALL LETTER G;
   lLATIN SMALL LETTER H;lLATIN SMALL LETTER I;lLATIN SMALL LETTER J;lLATIN SMALL LETTER K;
   lLATIN SMALL LETTER L;lLATIN SMALL LETTER M;lLATIN SMALL LETTER N;lLATIN SMALL LETTER O;
   lLATIN SMALL LETTER P;lLATIN SMALL LETTER Q;lLATIN SMALL LETTER R;lLATIN SMALL LETTER S;
   lLATIN SMALL LETTER T;lLATIN SMALL LETTER U;lLATIN SMALL LETTER V;lLATIN SMALL LETTER W;
   lLATIN SMALL LETTER X;lLATIN SMALL LETTER Y;lLATIN SMALL LETTER Z;kLATIN CAPITAL LETTER A;
   kLATIN CAPITAL LETTER B;kLATIN CAPITAL LETTER C;kLATIN CAPITAL LETTER D;
   kLATIN CAPITAL LETTER E;kLATIN CAPITAL LETTER F;kLATIN CAPITAL LETTER G;
   kLATIN CAPITAL LETTER H;kLATIN CAPITAL LETTER I;kLATIN CAPITAL LETTER J;
   kLATIN CAPITAL LETTER K;kLATIN CAPITAL LETTER L;kLATIN CAPITAL LETTER M;
   kLATIN CAPITAL LETTER N;kLATIN CAPITAL LETTER O;kLATIN CAPITAL LETTER P;
   kLATIN CAPITAL LETTER Q;kLATIN CAPITAL LETTER R;kLATIN CAPITAL LETTER S;
   kLATIN CAPITAL LETTER T;kLATIN CAPITAL LETTER U;kLATIN CAPITAL LETTER V;
   kLATIN CAPITAL LETTER W;kLATIN CAPITAL LETTER X;kLATIN CAPITAL LETTER Y;
   kLATIN CAPITAL LETTER Z;kLATIN SMALL LETTER A;kLATIN SMALL LETTER B;kLATIN SMALL LETTER C;
   kLATIN SMALL LETTER D;kLATIN SMALL LETTER E;kLATIN SMALL LETTER F;kLATIN SMALL LETTER G;
   kLATIN SMALL LETTER H;kLATIN SMALL LETTER I;kLATIN SMALL LETTER J;kLATIN SMALL LETTER K;
   kLATIN SMALL LETTER L;kLATIN SMALL LETTER M;kLATIN SMALL LETTER N;kLATIN SMALL LETTER O;
   kLATIN SMALL LETTER P;kLATIN SMALL LETTER Q;kLATIN SMALL LETTER R;kLATIN SMALL LETTER S;
   kLATIN SMALL LETTER T;kLATIN SMALL LETTER U;kLATIN SMALL LETTER V;kLATIN SMALL LETTER W;
   kLATIN SMALL LETTER X;kLATIN SMALL LETTER Y;kLATIN SMALL LETTER Z;kDIGIT ZERO;pNUMBER ELEVEN;
   pNUMBER TWELVE;pNUMBER THIRTEEN;pNUMBER FOURTEEN;pNUMBER FIFTEEN;pNUMBER SIXTEEN;
   pNUMBER SEVENTEEN;pNUMBER EIGHTEEN;pNUMBER NINETEEN;pNUMBER TWENTY;DOUBLE CIRCLED DIGIT ONE;
   DOUBLE CIRCLED DIGIT TWO;DOUBLE CIRCLED DIGIT THREE;DOUBLE CIRCLED DIGIT FOUR;
   DOUBLE CIRCLED DIGIT FIVE;DOUBLE CIRCLED DIGIT SIX;DOUBLE CIRCLED DIGIT SEVEN;
   DOUBLE CIRCLED DIGIT EIGHT;DOUBLE CIRCLED DIGIT NINE;DOUBLE CIRCLED NUMBER TEN;pDIGIT ZERO"⟩,
  ⟨0x2500,
  "iHORIZONTAL;jHEAVY HORIZONTAL;iVERTICAL;jHEAVY VERTICAL;iTRIPLE DASH HORIZONTAL;
   jHEAVY TRIPLE DASH HORIZONTAL;iTRIPLE DASH VERTICAL;jHEAVY TRIPLE DASH VERTICAL;
   iQUADRUPLE DASH HORIZONTAL;jHEAVY QUADRUPLE DASH HORIZONTAL;iQUADRUPLE DASH VERTICAL;
   jHEAVY QUADRUPLE DASH VERTICAL;iDOWN AND RIGHT;jDOWN LIGHT AND RIGHT HEAVY;
   jDOWN HEAVY AND RIGHT LIGHT;jHEAVY DOWN AND RIGHT;iDOWN AND LEFT;jDOWN LIGHT AND LEFT HEAVY;
   jDOWN HEAVY AND LEFT LIGHT;jHEAVY DOWN AND LEFT;iUP AND RIGHT;jUP LIGHT AND RIGHT HEAVY;
   jUP HEAVY AND RIGHT LIGHT;jHEAVY UP AND RIGHT;iUP AND LEFT;jUP LIGHT AND LEFT HEAVY;
   jUP HEAVY AND LEFT LIGHT;jHEAVY UP AND LEFT;iVERTICAL AND RIGHT;
   jVERTICAL LIGHT AND RIGHT HEAVY;jUP HEAVY AND RIGHT DOWN LIGHT;jDOWN HEAVY AND RIGHT UP LIGHT;
   jVERTICAL HEAVY AND RIGHT LIGHT;jDOWN LIGHT AND RIGHT UP HEAVY;jUP LIGHT AND RIGHT DOWN HEAVY;
   jHEAVY VERTICAL AND RIGHT;iVERTICAL AND LEFT;jVERTICAL LIGHT AND LEFT HEAVY;
   jUP HEAVY AND LEFT DOWN LIGHT;jDOWN HEAVY AND LEFT UP LIGHT;jVERTICAL HEAVY AND LEFT LIGHT;
   jDOWN LIGHT AND LEFT UP HEAVY;jUP LIGHT AND LEFT DOWN HEAVY;jHEAVY VERTICAL AND LEFT;
   iDOWN AND HORIZONTAL;jLEFT HEAVY AND RIGHT DOWN LIGHT;jRIGHT HEAVY AND LEFT DOWN LIGHT;
   jDOWN LIGHT AND HORIZONTAL HEAVY;jDOWN HEAVY AND HORIZONTAL LIGHT;
   jRIGHT LIGHT AND LEFT DOWN HEAVY;jLEFT LIGHT AND RIGHT DOWN HEAVY;jHEAVY DOWN AND HORIZONTAL;
   iUP AND HORIZONTAL;jLEFT HEAVY AND RIGHT UP LIGHT;jRIGHT HEAVY AND LEFT UP LIGHT;
   jUP LIGHT AND HORIZONTAL HEAVY;jUP HEAVY AND HORIZONTAL LIGHT;jRIGHT LIGHT AND LEFT UP HEAVY;
   jLEFT LIGHT AND RIGHT UP HEAVY;jHEAVY UP AND HORIZONTAL;iVERTICAL AND HORIZONTAL;
   jLEFT HEAVY AND RIGHT VERTICAL LIGHT;jRIGHT HEAVY AND LEFT VERTICAL LIGHT;
   jVERTICAL LIGHT AND HORIZONTAL HEAVY;jUP HEAVY AND DOWN HORIZONTAL LIGHT;
   jDOWN HEAVY AND UP HORIZONTAL LIGHT;jVERTICAL HEAVY AND HORIZONTAL LIGHT;
   jLEFT UP HEAVY AND RIGHT DOWN LIGHT;jRIGHT UP HEAVY AND LEFT DOWN LIGHT;
   jLEFT DOWN HEAVY AND RIGHT UP LIGHT;jRIGHT DOWN HEAVY AND LEFT UP LIGHT;
   jDOWN LIGHT AND UP HORIZONTAL HEAVY;jUP LIGHT AND DOWN HORIZONTAL HEAVY;
   jRIGHT LIGHT AND LEFT VERTICAL HEAVY;jLEFT LIGHT AND RIGHT VERTICAL HEAVY;
   jHEAVY VERTICAL AND HORIZONTAL;iDOUBLE DASH HORIZONTAL;jHEAVY DOUBLE DASH HORIZONTAL;
   iDOUBLE DASH VERTICAL;jHEAVY DOUBLE DASH VERTICAL;jDOUBLE HORIZONTAL;jDOUBLE VERTICAL;
   jDOWN SINGLE AND RIGHT DOUBLE;jDOWN DOUBLE AND RIGHT SINGLE;jDOUBLE DOWN AND RIGHT;
   jDOWN SINGLE AND LEFT DOUBLE;jDOWN DOUBLE AND LEFT SINGLE;jDOUBLE DOWN AND LEFT;
   jUP SINGLE AND RIGHT DOUBLE;jUP DOUBLE AND RIGHT SINGLE;jDOUBLE UP AND RIGHT;
   jUP SINGLE AND LEFT DOUBLE;jUP DOUBLE AND LEFT SINGLE;jDOUBLE UP AND LEFT;
   jVERTICAL SINGLE AND RIGHT DOUBLE;jVERTICAL DOUBLE AND RIGHT SINGLE;
   jDOUBLE VERTICAL AND RIGHT;jVERTICAL SINGLE AND LEFT DOUBLE;jVERTICAL DOUBLE AND LEFT SINGLE;
   jDOUBLE VERTICAL AND LEFT;jDOWN SINGLE AND HORIZONTAL DOUBLE;
   jDOWN DOUBLE AND HORIZONTAL SINGLE;jDOUBLE DOWN AND HORIZONTAL;
   jUP SINGLE AND HORIZONTAL DOUBLE;jUP DOUBLE AND HORIZONTAL SINGLE;jDOUBLE UP AND HORIZONTAL;
   jVERTICAL SINGLE AND HORIZONTAL DOUBLE;jVERTICAL DOUBLE AND HORIZONTAL SINGLE;
   jDOUBLE VERTICAL AND HORIZONTAL;iARC DOWN AND RIGHT;iARC DOWN AND LEFT;iARC UP AND LEFT;
   iARC UP AND RIGHT;iDIAGONAL UPPER RIGHT TO LOWER LEFT;iDIAGONAL UPPER LEFT TO LOWER RIGHT;
   iDIAGONAL CROSS;iLEFT;iUP;iRIGHT;iDOWN;jHEAVY LEFT;jHEAVY UP;jHEAVY RIGHT;jHEAVY DOWN;
   iLEFT AND HEAVY RIGHT;iUP AND HEAVY DOWN;jHEAVY LEFT AND LIGHT RIGHT;jHEAVY UP AND LIGHT DOWN;
   UPPER HALF BLOCK;LOWER ONE EIGHTH BLOCK;LOWER ONE QUARTER BLOCK;LOWER THREE EIGHTHS BLOCK;
   LOWER HALF BLOCK;LOWER FIVE EIGHTHS BLOCK;LOWER THREE QUARTERS BLOCK;
   LOWER SEVEN EIGHTHS BLOCK;FULL BLOCK;LEFT SEVEN EIGHTHS BLOCK;LEFT THREE QUARTERS BLOCK;
   LEFT FIVE EIGHTHS BLOCK;LEFT HALF BLOCK;LEFT THREE EIGHTHS BLOCK;LEFT ONE QUARTER BLOCK;
   LEFT ONE EIGHTH BLOCK;RIGHT HALF BLOCK;LIGHT SHADE;MEDIUM SHADE;DARK SHADE;
   UPPER ONE EIGHTH BLOCK;RIGHT ONE EIGHTH BLOCK;QUADRANT LOWER LEFT;QUADRANT LOWER RIGHT;
   QUADRANT UPPER LEFT;QUADRANT UPPER LEFT AND LOWER LEFT AND LOWER RIGHT;
   QUADRANT UPPER LEFT AND LOWER RIGHT;QUADRANT UPPER LEFT AND UPPER RIGHT AND LOWER LEFT;
   QUADRANT UPPER LEFT AND UPPER RIGHT AND LOWER RIGHT;QUADRANT UPPER RIGHT;
   QUADRANT UPPER RIGHT AND LOWER LEFT;QUADRANT UPPER RIGHT AND LOWER LEFT AND LOWER RIGHT;
   BLACK SQUARE;WHITE SQUARE;WHITE SQUARE WITH ROUNDED CORNERS;
   WHITE SQUARE CONTAINING BLACK SMALL SQUARE;SQUARE WITH HORIZONTAL FILL;
   SQUARE WITH VERTICAL FILL;SQUARE WITH ORTHOGONAL CROSSHATCH FILL;
   SQUARE WITH UPPER LEFT TO LOWER RIGHT FILL;SQUARE WITH UPPER RIGHT TO LOWER LEFT FILL;
   SQUARE WITH DIAGONAL CROSSHATCH FILL;BLACK SMALL SQUARE;WHITE SMALL SQUARE;BLACK RECTANGLE;
   WHITE RECTANGLE;BLACK VERTICAL RECTANGLE;WHITE VERTICAL RECTANGLE;BLACK PARALLELOGRAM;
   WHITE PARALLELOGRAM;BLACK UP-POINTING TRIANGLE;WHITE UP-POINTING TRIANGLE;
   BLACK UP-POINTING SMALL TRIANGLE;WHITE UP-POINTING SMALL TRIANGLE;
   BLACK RIGHT-POINTING TRIANGLE;WHITE RIGHT-POINTING TRIANGLE;
   BLACK RIGHT-POINTING SMALL TRIANGLE;WHITE RIGHT-POINTING SMALL TRIANGLE;
   BLACK RIGHT-POINTING POINTER;WHITE RIGHT-POINTING POINTER;BLACK DOWN-POINTING TRIANGLE;
   WHITE DOWN-POINTING TRIANGLE;BLACK DOWN-POINTING SMALL TRIANGLE;
   WHITE DOWN-POINTING SMALL TRIANGLE;BLACK LEFT-POINTING TRIANGLE;WHITE LEFT-POINTING TRIANGLE;
   BLACK LEFT-POINTING SMALL TRIANGLE;WHITE LEFT-POINTING SMALL TRIANGLE;
   BLACK LEFT-POINTING POINTER;WHITE LEFT-POINTING POINTER;BLACK DIAMOND;WHITE DIAMOND;
   WHITE DIAMOND CONTAINING BLACK SMALL DIAMOND;FISHEYE;LOZENGE;WHITE CIRCLE;DOTTED CIRCLE;
   CIRCLE WITH VERTICAL FILL;BULLSEYE;BLACK CIRCLE;CIRCLE WITH LEFT HALF BLACK;
   CIRCLE WITH RIGHT HALF BLACK;CIRCLE WITH LOWER HALF BLACK;CIRCLE WITH UPPER HALF BLACK;
   CIRCLE WITH UPPER RIGHT QUADRANT BLACK;CIRCLE WITH ALL BUT UPPER LEFT QUADRANT BLACK;
   LEFT HALF BLACK CIRCLE;RIGHT HALF BLACK CIRCLE;INVERSE BULLET;INVERSE WHITE CIRCLE;
   UPPER HALF INVERSE WHITE CIRCLE;LOWER HALF INVERSE WHITE CIRCLE;
   UPPER LEFT QUADRANT CIRCULAR ARC;UPPER RIGHT QUADRANT CIRCULAR ARC;
   LOWER RIGHT QUADRANT CIRCULAR ARC;LOWER LEFT QUADRANT CIRCULAR ARC;UPPER HALF CIRCLE;
   LOWER HALF CIRCLE;BLACK LOWER RIGHT TRIANGLE;BLACK LOWER LEFT TRIANGLE;
   BLACK UPPER LEFT TRIANGLE;BLACK UPPER RIGHT TRIANGLE;WHITE BULLET;SQUARE WITH LEFT HALF BLACK;
   SQUARE WITH RIGHT HALF BLACK;SQUARE WITH UPPER LEFT DIAGONAL HALF BLACK;
   SQUARE WITH LOWER RIGHT DIAGONAL HALF BLACK;WHITE SQUARE WITH VERTICAL BISECTING LINE;
   WHITE UP-POINTING TRIANGLE WITH DOT;UP-POINTING TRIANGLE WITH LEFT HALF BLACK;
   UP-POINTING TRIANGLE WITH RIGHT HALF BLACK;LARGE CIRCLE;WHITE SQUARE WITH UPPER LEFT QUADRANT;
   WHITE SQUARE WITH LOWER LEFT QUADRANT;WHITE SQUARE WITH LOWER RIGHT QUADRANT;
   WHITE SQUARE WITH UPPER RIGHT QUADRANT;WHITE CIRCLE WITH UPPER LEFT QUADRANT;
   WHITE CIRCLE WITH LOWER LEFT QUADRANT;WHITE CIRCLE WITH LOWER RIGHT QUADRANT;
   WHITE CIRCLE WITH UPPER RIGHT QUADRANT;UPPER LEFT TRIANGLE;UPPER RIGHT TRIANGLE;
   LOWER LEFT TRIANGLE;WHITE MEDIUM SQUARE;BLACK MEDIUM SQUARE;WHITE MEDIUM SMALL SQUARE;
   BLACK MEDIUM SMALL SQUARE;LOWER RIGHT TRIANGLE"⟩,
  ⟨0x2600,
  "BLACK SUN WITH RAYS;CLOUD;UMBRELLA;SNOWMAN;COMET;BLACK STAR;WHITE STAR;LIGHTNING;THUNDERSTORM;
   SUN;ASCENDING NODE;DESCENDING NODE;CONJUNCTION;OPPOSITION;BLACK TELEPHONE;WHITE TELEPHONE;
   BALLOT BOX;BALLOT BOX WITH CHECK;BALLOT BOX WITH X;SALTIRE;UMBRELLA WITH RAIN DROPS;
   HOT BEVERAGE;WHITE SHOGI PIECE;BLACK SHOGI PIECE;SHAMROCK;
   REVERSED ROTATED FLORAL HEART BULLET;BLACK LEFT POINTING INDEX;BLACK RIGHT POINTING INDEX;
   WHITE LEFT POINTING INDEX;WHITE UP POINTING INDEX;WHITE RIGHT POINTING INDEX;
   WHITE DOWN POINTING INDEX;SKULL AND CROSSBONES;CAUTION SIGN;RADIOACTIVE SIGN;BIOHAZARD SIGN;
   CADUCEUS;ANKH;ORTHODOX CROSS;CHI RHO;CROSS OF LORRAINE;CROSS OF JERUSALEM;STAR AND CRESCENT;
   FARSI SYMBOL;ADI SHAKTI;HAMMER AND SICKLE;PEACE SYMBOL;YIN YANG;TRIGRAM FOR HEAVEN;
   TRIGRAM FOR LAKE;TRIGRAM FOR FIRE;TRIGRAM FOR THUNDER;TRIGRAM FOR WIND;TRIGRAM FOR WATER;
   TRIGRAM FOR MOUNTAIN;TRIGRAM FOR EARTH;WHEEL OF DHARMA;WHITE FROWNING FACE;WHITE SMILING FACE;
   BLACK SMILING FACE;WHITE SUN WITH RAYS;FIRST QUARTER MOON;LAST QUARTER MOON;MERCURY;
   FEMALE SIGN;EARTH;MALE SIGN;JUPITER;SATURN;URANUS;NEPTUNE;PLUTO;ARIES;TAURUS;GEMINI;CANCER;
   LEO;VIRGO;LIBRA;SCORPIUS;SAGITTARIUS;CAPRICORN;AQUARIUS;PISCES;WHITE CHESS KING;
   WHITE CHESS QUEEN;WHITE CHESS ROOK;WHITE CHESS BISHOP;WHITE CHESS KNIGHT;WHITE CHESS PAWN;
   BLACK CHESS KING;BLACK CHESS QUEEN;BLACK CHESS ROOK;BLACK CHESS BISHOP;BLACK CHESS KNIGHT;
   BLACK CHESS PAWN;BLACK SPADE SUIT;WHITE HEART SUIT;WHITE DIAMOND SUIT;BLACK CLUB SUIT;
   WHITE SPADE SUIT;BLACK HEART SUIT;BLACK DIAMOND SUIT;WHITE CLUB SUIT;HOT SPRINGS;QUARTER NOTE;
   EIGHTH NOTE;BEAMED EIGHTH NOTES;BEAMED SIXTEENTH NOTES;MUSIC FLAT SIGN;MUSIC NATURAL SIGN;
   MUSIC SHARP SIGN;WEST SYRIAC CROSS;EAST SYRIAC CROSS;UNIVERSAL RECYCLING SYMBOL;
   RECYCLING SYMBOL FOR TYPE-1 PLASTICS;RECYCLING SYMBOL FOR TYPE-2 PLASTICS;
   RECYCLING SYMBOL FOR TYPE-3 PLASTICS;RECYCLING SYMBOL FOR TYPE-4 PLASTICS;
   RECYCLING SYMBOL FOR TYPE-5 PLASTICS;RECYCLING SYMBOL FOR TYPE-6 PLASTICS;
   RECYCLING SYMBOL FOR TYPE-7 PLASTICS;RECYCLING SYMBOL FOR GENERIC MATERIALS;
   BLACK UNIVERSAL RECYCLING SYMBOL;RECYCLED PAPER SYMBOL;PARTIALLY-RECYCLED PAPER SYMBOL;
   PERMANENT PAPER SIGN;WHEELCHAIR SYMBOL;DIE FACE-1;DIE FACE-2;DIE FACE-3;DIE FACE-4;DIE FACE-5;
   DIE FACE-6;WHITE CIRCLE WITH DOT RIGHT;WHITE CIRCLE WITH TWO DOTS;
   BLACK CIRCLE WITH WHITE DOT RIGHT;BLACK CIRCLE WITH TWO WHITE DOTS;MONOGRAM FOR YANG;
   MONOGRAM FOR YIN;DIGRAM FOR GREATER YANG;DIGRAM FOR LESSER YIN;DIGRAM FOR LESSER YANG;
   DIGRAM FOR GREATER YIN;WHITE FLAG;BLACK FLAG;HAMMER AND PICK;ANCHOR;CROSSED SWORDS;
   STAFF OF AESCULAPIUS;SCALES;ALEMBIC;FLOWER;GEAR;STAFF OF HERMES;ATOM SYMBOL;FLEUR-DE-LIS;
   OUTLINED WHITE STAR;THREE LINES CONVERGING RIGHT;THREE LINES CONVERGING LEFT;WARNING SIGN;
   HIGH VOLTAGE SIGN;DOUBLED FEMALE SIGN;DOUBLED MALE SIGN;INTERLOCKED FEMALE AND MALE SIGN;
   MALE AND FEMALE SIGN;MALE WITH STROKE SIGN;MALE WITH STROKE AND MALE AND FEMALE SIGN;
   VERTICAL MALE WITH STROKE SIGN;HORIZONTAL MALE WITH STROKE SIGN;MEDIUM WHITE CIRCLE;
   MEDIUM BLACK CIRCLE;MEDIUM SMALL WHITE CIRCLE;MARRIAGE SYMBOL;DIVORCE SYMBOL;
   UNMARRIED PARTNERSHIP SYMBOL;COFFIN;FUNERAL URN;NEUTER;CERES;PALLAS;JUNO;VESTA;CHIRON;
   BLACK MOON LILITH;SEXTILE;SEMISEXTILE;QUINCUNX;SESQUIQUADRATE;SOCCER BALL;BASEBALL;
   SQUARED KEY;WHITE DRAUGHTS MAN;WHITE DRAUGHTS KING;BLACK DRAUGHTS MAN;BLACK DRAUGHTS KING;
   SNOWMAN WITHOUT SNOW;SUN BEHIND CLOUD;RAIN;BLACK SNOWMAN;THUNDER CLOUD AND RAIN;
   TURNED WHITE SHOGI PIECE;TURNED BLACK SHOGI PIECE;WHITE DIAMOND IN SQUARE;CROSSING LANES;
   DISABLED CAR;OPHIUCHUS;PICK;CAR SLIDING;HELMET WITH WHITE CROSS;kCROSSING LANES;CHAINS;
   NO ENTRY;ALTERNATE ONE-WAY LEFT WAY TRAFFIC;BLACK TWO-WAY LEFT WAY TRAFFIC;
   WHITE TWO-WAY LEFT WAY TRAFFIC;BLACK LEFT LANE MERGE;WHITE LEFT LANE MERGE;DRIVE SLOW SIGN;
   HEAVY WHITE DOWN-POINTING TRIANGLE;LEFT CLOSED ENTRY;SQUARED SALTIRE;
   FALLING DIAGONAL IN WHITE CIRCLE IN BLACK SQUARE;BLACK TRUCK;RESTRICTED LEFT ENTRY-1;
   RESTRICTED LEFT ENTRY-2;ASTRONOMICAL SYMBOL FOR URANUS;
   HEAVY CIRCLE WITH STROKE AND TWO DOTS ABOVE;PENTAGRAM;RIGHT-HANDED INTERLACED PENTAGRAM;
   LEFT-HANDED INTERLACED PENTAGRAM;INVERTED PENTAGRAM;BLACK CROSS ON SHIELD;SHINTO SHRINE;
   CHURCH;CASTLE;HISTORIC SITE;GEAR WITHOUT HUB;GEAR WITH HANDLES;MAP SYMBOL FOR LIGHTHOUSE;
   MOUNTAIN;UMBRELLA ON GROUND;FOUNTAIN;FLAG IN HOLE;FERRY;SAILBOAT;SQUARE FOUR CORNERS;SKIER;
   ICE SKATE;PERSON WITH BALL;TENT;JAPANESE BANK SYMBOL;HEADSTONE GRAVEYARD SYMBOL;FUEL PUMP;
   CUP ON BLACK SQUARE;WHITE FLAG WITH HORIZONTAL MIDDLE BLACK STRIPE;BLACK SAFETY SCISSORS;
   UPPER BLADE SCISSORS;BLACK SCISSORS;LOWER BLADE SCISSORS;WHITE SCISSORS;
   WHITE HEAVY CHECK MARK;TELEPHONE LOCATION SIGN;TAPE DRIVE;AIRPLANE;ENVELOPE;RAISED FIST;
   RAISED HAND;VICTORY HAND;WRITING HAND;LOWER RIGHT PENCIL;PENCIL;UPPER RIGHT PENCIL;WHITE NIB;
   BLACK NIB;CHECK MARK;HEAVY CHECK MARK;MULTIPLICATION X;HEAVY MULTIPLICATION X;BALLOT X;
   HEAVY BALLOT X;OUTLINED GREEK CROSS;HEAVY GREEK CROSS;OPEN CENTRE CROSS;
   HEAVY OPEN CENTRE CROSS;LATIN CROSS;SHADOWED WHITE LATIN CROSS;OUTLINED LATIN CROSS;
   MALTESE CROSS;STAR OF DAVID;FOUR TEARDROP-SPOKED ASTERISK;FOUR BALLOON-SPOKED ASTERISK;
   HEAVY FOUR BALLOON-SPOKED ASTERISK;FOUR CLUB-SPOKED ASTERISK;BLACK FOUR POINTED STAR;
   WHITE FOUR POINTED STAR;SPARKLES;STRESS OUTLINED WHITE STAR;kWHITE STAR;
   OPEN CENTRE BLACK STAR;BLACK CENTRE WHITE STAR;OUTLINED BLACK STAR;HEAVY OUTLINED BLACK STAR;
   PINWHEEL STAR;SHADOWED WHITE STAR;HEAVY ASTERISK;OPEN CENTRE ASTERISK;EIGHT SPOKED ASTERISK;
   EIGHT POINTED BLACK STAR;EIGHT POINTED PINWHEEL STAR;SIX POINTED BLACK STAR;
   EIGHT POINTED RECTILINEAR BLACK STAR;HEAVY EIGHT POINTED RECTILINEAR BLACK STAR;
   TWELVE POINTED BLACK STAR;SIXTEEN POINTED ASTERISK;TEARDROP-SPOKED ASTERISK;
   OPEN CENTRE TEARDROP-SPOKED ASTERISK;HEAVY TEARDROP-SPOKED ASTERISK;
   SIX PETALLED BLACK AND WHITE FLORETTE;BLACK FLORETTE;WHITE FLORETTE;
   EIGHT PETALLED OUTLINED BLACK FLORETTE;kOPEN CENTRE EIGHT POINTED STAR;
   HEAVY TEARDROP-SPOKED PINWHEEL ASTERISK;SNOWFLAKE;TIGHT TRIFOLIATE SNOWFLAKE;
   HEAVY CHEVRON SNOWFLAKE;SPARKLE;HEAVY SPARKLE;BALLOON-SPOKED ASTERISK;
   EIGHT TEARDROP-SPOKED PROPELLER ASTERISK;HEAVY EIGHT TEARDROP-SPOKED PROPELLER ASTERISK;
   CROSS MARK;SHADOWED WHITE CIRCLE;NEGATIVE SQUARED CROSS MARK;
   LOWER RIGHT DROP-SHADOWED WHITE SQUARE;UPPER RIGHT DROP-SHADOWED WHITE SQUARE;
   LOWER RIGHT SHADOWED WHITE SQUARE;UPPER RIGHT SHADOWED WHITE SQUARE;
   BLACK QUESTION MARK ORNAMENT;WHITE QUESTION MARK ORNAMENT;WHITE EXCLAMATION MARK ORNAMENT;
   BLACK DIAMOND MINUS WHITE X;HEAVY EXCLAMATION MARK SYMBOL;LIGHT VERTICAL BAR;
   MEDIUM VERTICAL BAR;HEAVY VERTICAL BAR;HEAVY SINGLE TURNED COMMA QUOTATION MARK ORNAMENT;
   HEAVY SINGLE COMMA QUOTATION MARK ORNAMENT;HEAVY DOUBLE TURNED COMMA QUOTATION MARK ORNAMENT;
   HEAVY DOUBLE COMMA QUOTATION MARK ORNAMENT;HEAVY LOW SINGLE COMMA QUOTATION MARK ORNAMENT;
   HEAVY LOW DOUBLE COMMA QUOTATION MARK ORNAMENT;CURVED STEM PARAGRAPH SIGN ORNAMENT;
   HEAVY EXCLAMATION MARK ORNAMENT;HEAVY HEART EXCLAMATION MARK ORNAMENT;HEAVY BLACK HEART;
   ROTATED HEAVY BLACK HEART BULLET;FLORAL HEART;ROTATED FLORAL HEART BULLET;
   MEDIUM LEFT PARENTHESIS ORNAMENT;MEDIUM RIGHT PARENTHESIS ORNAMENT;
   MEDIUM FLATTENED LEFT PARENTHESIS ORNAMENT;MEDIUM FLATTENED RIGHT PARENTHESIS ORNAMENT;
   MEDIUM LEFT-POINTING ANGLE BRACKET ORNAMENT;MEDIUM RIGHT-POINTING ANGLE BRACKET ORNAMENT;
   HEAVY LEFT-POINTING ANGLE QUOTATION MARK ORNAMENT;
   HEAVY RIGHT-POINTING ANGLE QUOTATION MARK ORNAMENT;HEAVY LEFT-POINTING ANGLE BRACKET ORNAMENT;
   HEAVY RIGHT-POINTING ANGLE BRACKET ORNAMENT;LIGHT LEFT TORTOISE SHELL BRACKET ORNAMENT;
   LIGHT RIGHT TORTOISE SHELL BRACKET ORNAMENT;MEDIUM LEFT CURLY BRACKET ORNAMENT;
   MEDIUM RIGHT CURLY BRACKET ORNAMENT;DINGBAT NEGATIVE CIRCLED DIGIT ONE;
   DINGBAT NEGATIVE CIRCLED DIGIT TWO;DINGBAT NEGATIVE CIRCLED DIGIT THREE;
   DINGBAT NEGATIVE CIRCLED DIGIT FOUR;DINGBAT NEGATIVE CIRCLED DIGIT FIVE;
   DINGBAT NEGATIVE CIRCLED DIGIT SIX;DINGBAT NEGATIVE CIRCLED DIGIT SEVEN;
   DINGBAT NEGATIVE CIRCLED DIGIT EIGHT;DINGBAT NEGATIVE CIRCLED DIGIT NINE;
   DINGBAT NEGATIVE CIRCLED NUMBER TEN;DINGBAT CIRCLED SANS-SERIF DIGIT ONE;
   DINGBAT CIRCLED SANS-SERIF DIGIT TWO;DINGBAT CIRCLED SANS-SERIF DIGIT THREE;
   DINGBAT CIRCLED SANS-SERIF DIGIT FOUR;DINGBAT CIRCLED SANS-SERIF DIGIT FIVE;
   DINGBAT CIRCLED SANS-SERIF DIGIT SIX;DINGBAT CIRCLED SANS-SERIF DIGIT SEVEN;
   DINGBAT CIRCLED SANS-SERIF DIGIT EIGHT;DINGBAT CIRCLED SANS-SERIF DIGIT NINE;
   DINGBAT CIRCLED SANS-SERIF NUMBER TEN;DINGBAT NEGATIVE CIRCLED SANS-SERIF DIGIT ONE;
   DINGBAT NEGATIVE CIRCLED SANS-SERIF DIGIT TWO;DINGBAT NEGATIVE CIRCLED SANS-SERIF DIGIT THREE;
   DINGBAT NEGATIVE CIRCLED SANS-SERIF DIGIT FOUR;DINGBAT NEGATIVE CIRCLED SANS-SERIF DIGIT FIVE;
   DINGBAT NEGATIVE CIRCLED SANS-SERIF DIGIT SIX;DINGBAT NEGATIVE CIRCLED SANS-SERIF DIGIT SEVEN;
   DINGBAT NEGATIVE CIRCLED SANS-SERIF DIGIT EIGHT;
   DINGBAT NEGATIVE CIRCLED SANS-SERIF DIGIT NINE;DINGBAT NEGATIVE CIRCLED SANS-SERIF NUMBER TEN;
   HEAVY WIDE-HEADED RIGHTWARDS ARROW;HEAVY PLUS SIGN;HEAVY MINUS SIGN;HEAVY DIVISION SIGN;
   HEAVY SOUTH EAST ARROW;HEAVY RIGHTWARDS ARROW;HEAVY NORTH EAST ARROW;
   DRAFTING POINT RIGHTWARDS ARROW;HEAVY ROUND-TIPPED RIGHTWARDS ARROW;
   TRIANGLE-HEADED RIGHTWARDS ARROW;HEAVY TRIANGLE-HEADED RIGHTWARDS ARROW;
   DASHED TRIANGLE-HEADED RIGHTWARDS ARROW;HEAVY DASHED TRIANGLE-HEADED RIGHTWARDS ARROW;
   BLACK RIGHTWARDS ARROW;THREE-D TOP-LIGHTED RIGHTWARDS ARROWHEAD;
   THREE-D BOTTOM-LIGHTED RIGHTWARDS ARROWHEAD;BLACK RIGHTWARDS ARROWHEAD;
   HEAVY BLACK CURVED DOWNWARDS AND RIGHTWARDS ARROW;
   HEAVY BLACK CURVED UPWARDS AND RIGHTWARDS ARROW;SQUAT BLACK RIGHTWARDS ARROW;
   HEAVY CONCAVE-POINTED BLACK RIGHTWARDS ARROW;RIGHT-SHADED WHITE RIGHTWARDS ARROW;
   LEFT-SHADED WHITE RIGHTWARDS ARROW;BACK-TILTED SHADOWED WHITE RIGHTWARDS ARROW;
   FRONT-TILTED SHADOWED WHITE RIGHTWARDS ARROW;
   HEAVY LOWER RIGHT-SHADOWED WHITE RIGHTWARDS ARROW;
   HEAVY UPPER RIGHT-SHADOWED WHITE RIGHTWARDS ARROW;
   NOTCHED LOWER RIGHT-SHADOWED WHITE RIGHTWARDS ARROW;CURLY LOOP;
   NOTCHED UPPER RIGHT-SHADOWED WHITE RIGHTWARDS ARROW;kHEAVY WHITE RIGHTWARDS ARROW;
   WHITE-FEATHERED RIGHTWARDS ARROW;BLACK-FEATHERED SOUTH EAST ARROW;
   BLACK-FEATHERED RIGHTWARDS ARROW;BLACK-FEATHERED NORTH EAST ARROW;
   HEAVY BLACK-FEATHERED SOUTH EAST ARROW;HEAVY BLACK-FEATHERED RIGHTWARDS ARROW;
   HEAVY BLACK-FEATHERED NORTH EAST ARROW;TEARDROP-BARBED RIGHTWARDS ARROW;
   HEAVY TEARDROP-SHANKED RIGHTWARDS ARROW;WEDGE-TAILED RIGHTWARDS ARROW;
   HEAVY WEDGE-TAILED RIGHTWARDS ARROW;OPEN-OUTLINED RIGHTWARDS ARROW;DOUBLE CURLY LOOP"⟩,
  ⟨0x3000,
  "IDEOGRAPHIC SPACE;IDEOGRAPHIC COMMA;IDEOGRAPHIC FULL STOP;DITTO MARK;
   JAPANESE INDUSTRIAL STANDARD SYMBOL;IDEOGRAPHIC ITERATION MARK;IDEOGRAPHIC CLOSING MARK;
   IDEOGRAPHIC NUMBER ZERO;LEFT ANGLE BRACKET;RIGHT ANGLE BRACKET;LEFT DOUBLE ANGLE BRACKET;
   RIGHT DOUBLE ANGLE BRACKET;LEFT CORNER BRACKET;RIGHT CORNER BRACKET;LEFT WHITE CORNER BRACKET;
   RIGHT WHITE CORNER BRACKET;LEFT BLACK LENTICULAR BRACKET;RIGHT BLACK LENTICULAR BRACKET;
   POSTAL MARK;GETA MARK;LEFT TORTOISE SHELL BRACKET;RIGHT TORTOISE SHELL BRACKET;
   LEFT WHITE LENTICULAR BRACKET;RIGHT WHITE LENTICULAR BRACKET;
   LEFT WHITE TORTOISE SHELL BRACKET;RIGHT WHITE TORTOISE SHELL BRACKET;
   LEFT WHITE SQUARE BRACKET;RIGHT WHITE SQUARE BRACKET;WAVE DASH;
   REVERSED DOUBLE PRIME QUOTATION MARK;DOUBLE PRIME QUOTATION MARK;
   LOW DOUBLE PRIME QUOTATION MARK;POSTAL MARK FACE;HANGZHOU NUMERAL ONE;HANGZHOU NUMERAL TWO;
   HANGZHOU NUMERAL THREE;HANGZHOU NUMERAL FOUR;HANGZHOU NUMERAL FIVE;HANGZHOU NUMERAL SIX;
   HANGZHOU NUMERAL SEVEN;HANGZHOU NUMERAL EIGHT;HANGZHOU NUMERAL NINE;
   IDEOGRAPHIC LEVEL TONE MARK;IDEOGRAPHIC RISING TONE MARK;IDEOGRAPHIC DEPARTING TONE MARK;
   IDEOGRAPHIC ENTERING TONE MARK;HANGUL SINGLE DOT TONE MARK;HANGUL DOUBLE DOT TONE MARK;
   WAVY DASH;VERTICAL KANA REPEAT MARK;VERTICAL KANA REPEAT WITH VOICED SOUND MARK;
   VERTICAL KANA REPEAT MARK UPPER HALF;VERTICAL KANA REPEAT WITH VOICED SOUND MARK UPPER HALF;
   VERTICAL KANA REPEAT MARK LOWER HALF;kPOSTAL MARK;
   IDEOGRAPHIC TELEGRAPH LINE FEED SEPARATOR SYMBOL;HANGZHOU NUMERAL TEN;HANGZHOU NUMERAL TWENTY;
   HANGZHOU NUMERAL THIRTY;VERTICAL IDEOGRAPHIC ITERATION MARK;MASU MARK;PART ALTERNATION MARK;
   IDEOGRAPHIC VARIATION INDICATOR;IDEOGRAPHIC HALF FILL SPACE"⟩,
  ⟨0x1F600,
  "GRINNING FACE;GRINNING FACE WITH SMILING EYES;FACE WITH TEARS OF JOY;
   SMILING FACE WITH OPEN MOUTH;SMILING FACE WITH OPEN MOUTH AND SMILING EYES;
   SMILING FACE WITH OPEN MOUTH AND COLD SWEAT;
   SMILING FACE WITH OPEN MOUTH AND TIGHTLY-CLOSED EYES;SMILING FACE WITH HALO;
   SMILING FACE WITH HORNS;WINKING FACE;SMILING FACE WITH SMILING EYES;
   FACE SAVOURING DELICIOUS FOOD;RELIEVED FACE;SMILING FACE WITH HEART-SHAPED EYES;
   SMILING FACE WITH SUNGLASSES;SMIRKING FACE;NEUTRAL FACE;EXPRESSIONLESS FACE;UNAMUSED FACE;
   FACE WITH COLD SWEAT;PENSIVE FACE;CONFUSED FACE;CONFOUNDED FACE;KISSING FACE;
   FACE THROWING A KISS;KISSING FACE WITH SMILING EYES;KISSING FACE WITH CLOSED EYES;
   FACE WITH STUCK-OUT TONGUE;FACE WITH STUCK-OUT TONGUE AND WINKING EYE;
   FACE WITH STUCK-OUT TONGUE AND TIGHTLY-CLOSED EYES;DISAPPOINTED FACE;WORRIED FACE;ANGRY FACE;
   POUTING FACE;CRYING FACE;PERSEVERING FACE;FACE WITH LOOK OF TRIUMPH;
   DISAPPOINTED BUT RELIEVED FACE;FROWNING FACE WITH OPEN MOUTH;ANGUISHED FACE;FEARFUL FACE;
   WEARY FACE;SLEEPY FACE;TIRED FACE;GRIMACING FACE;LOUDLY CRYING FACE;FACE WITH OPEN MOUTH;
   HUSHED FACE;FACE WITH OPEN MOUTH AND COLD SWEAT;FACE SCREAMING IN FEAR;ASTONISHED FACE;
   FLUSHED FACE;SLEEPING FACE;DIZZY FACE;FACE WITHOUT MOUTH;FACE WITH MEDICAL MASK;
   GRINNING CAT FACE WITH SMILING EYES;CAT FACE WITH TEARS OF JOY;
   SMILING CAT FACE WITH OPEN MOUTH;SMILING CAT FACE WITH HEART-SHAPED EYES;
   CAT FACE WITH WRY SMILE;KISSING CAT FACE WITH CLOSED EYES;POUTING CAT FACE;CRYING CAT FACE;
   WEARY CAT FACE;SLIGHTLY FROWNING FACE;SLIGHTLY SMILING FACE;UPSIDE-DOWN FACE;
   FACE WITH ROLLING EYES;FACE WITH NO GOOD GESTURE;FACE WITH OK GESTURE;PERSON BOWING DEEPLY;
   SEE-NO-EVIL MONKEY;HEAR-NO-EVIL MONKEY;SPEAK-NO-EVIL MONKEY;HAPPY PERSON RAISING ONE HAND;
   PERSON RAISING BOTH HANDS IN CELEBRATION;PERSON FROWNING;PERSON WITH POUTING FACE;
   PERSON WITH FOLDED HANDS"⟩]

/-- The aliases of controls and of invisible characters, with the number of the character. -/
def nameAliases : List (Nat × List String) := [
  (0x00, ["NUL", "NULL"]),
  (0x01, ["SOH", "START OF HEADING"]),
  (0x02, ["START OF TEXT", "STX"]),
  (0x03, ["END OF TEXT", "ETX"]),
  (0x04, ["END OF TRANSMISSION", "EOT"]),
  (0x05, ["ENQ", "ENQUIRY"]),
  (0x06, ["ACK", "ACKNOWLEDGE"]),
  (0x07, ["ALERT", "BEL"]),
  (0x08, ["BACKSPACE", "BS"]),
  (0x09, ["CHARACTER TABULATION", "HORIZONTAL TABULATION", "HT", "TAB"]),
  (0x0A, ["END OF LINE", "EOL", "LF", "LINE FEED", "NEW LINE", "NL"]),
  (0x0B, ["LINE TABULATION", "VERTICAL TABULATION", "VT"]),
  (0x0C, ["FF", "FORM FEED"]),
  (0x0D, ["CARRIAGE RETURN", "CR"]),
  (0x0E, ["LOCKING-SHIFT ONE", "SHIFT OUT", "SO"]),
  (0x0F, ["LOCKING-SHIFT ZERO", "SHIFT IN", "SI"]),
  (0x10, ["DATA LINK ESCAPE", "DLE"]),
  (0x11, ["DC1", "DEVICE CONTROL ONE"]),
  (0x12, ["DC2", "DEVICE CONTROL TWO"]),
  (0x13, ["DC3", "DEVICE CONTROL THREE"]),
  (0x14, ["DC4", "DEVICE CONTROL FOUR"]),
  (0x15, ["NAK", "NEGATIVE ACKNOWLEDGE"]),
  (0x16, ["SYN", "SYNCHRONOUS IDLE"]),
  (0x17, ["END OF TRANSMISSION BLOCK", "ETB"]),
  (0x18, ["CAN", "CANCEL"]),
  (0x19, ["END OF MEDIUM", "EOM"]),
  (0x1A, ["SUB", "SUBSTITUTE"]),
  (0x1B, ["ESC", "ESCAPE"]),
  (0x1C, ["FILE SEPARATOR", "FS", "INFORMATION SEPARATOR FOUR"]),
  (0x1D, ["GROUP SEPARATOR", "GS", "INFORMATION SEPARATOR THREE"]),
  (0x1E, ["INFORMATION SEPARATOR TWO", "RECORD SEPARATOR", "RS"]),
  (0x1F, ["INFORMATION SEPARATOR ONE", "UNIT SEPARATOR", "US"]),
  (0x20, ["SP"]),
  (0x7F, ["DEL", "DELETE"]),
  (0x80, ["PAD", "PADDING CHARACTER"]),
  (0x81, ["HIGH OCTET PRESET", "HOP"]),
  (0x82, ["BPH", "BREAK PERMITTED HERE"]),
  (0x83, ["NBH", "NO BREAK HERE"]),
  (0x84, ["IND", "INDEX"]),
  (0x85, ["NEL", "NEXT LINE"]),
  (0x86, ["SSA", "START OF SELECTED AREA"]),
  (0x87, ["END OF SELECTED AREA", "ESA"]),
  (0x88, ["CHARACTER TABULATION SET", "HORIZONTAL TABULATION SET", "HTS"]),
  (0x89, ["CHARACTER TABULATION WITH JUSTIFICATION", "HORIZONTAL TABULATION WITH JUSTIFICATION", "HTJ"]),
  (0x8A, ["LINE TABULATION SET", "VERTICAL TABULATION SET", "VTS"]),
  (0x8B, ["PARTIAL LINE DOWN", "PARTIAL LINE FORWARD", "PLD"]),
  (0x8C, ["PARTIAL LINE BACKWARD", "PARTIAL LINE UP", "PLU"]),
  (0x8D, ["REVERSE INDEX", "REVERSE LINE FEED", "RI"]),
  (0x8E, ["SINGLE SHIFT TWO", "SINGLE-SHIFT-2", "SS2"]),
  (0x8F, ["SINGLE SHIFT THREE", "SINGLE-SHIFT-3", "SS3"]),
  (0x90, ["DCS", "DEVICE CONTROL STRING"]),
  (0x91, ["PRIVATE USE ONE", "PRIVATE USE-1", "PU1"]),
  (0x92, ["PRIVATE USE TWO", "PRIVATE USE-2", "PU2"]),
  (0x93, ["SET TRANSMIT STATE", "STS"]),
  (0x94, ["CANCEL CHARACTER", "CCH"]),
  (0x95, ["MESSAGE WAITING", "MW"]),
  (0x96, ["SPA", "START OF GUARDED AREA", "START OF PROTECTED AREA"]),
  (0x97, ["END OF GUARDED AREA", "END OF PROTECTED AREA", "EPA"]),
  (0x98, ["SOS", "START OF STRING"]),
  (0x99, ["SGC", "SINGLE GRAPHIC CHARACTER INTRODUCER"]),
  (0x9A, ["SCI", "SINGLE CHARACTER INTRODUCER"]),
  (0x9B, ["CONTROL SEQUENCE INTRODUCER", "CSI"]),
  (0x9C, ["ST", "STRING TERMINATOR"]),
  (0x9D, ["OPERATING SYSTEM COMMAND", "OSC"]),
  (0x9E, ["PM", "PRIVACY MESSAGE"]),
  (0x9F, ["APC", "APPLICATION PROGRAM COMMAND"]),
  (0xA0, ["NBSP"]),
  (0xAD, ["SHY"]),
  (0x1A2, ["LATIN CAPITAL LETTER GHA"]),
  (0x1A3, ["LATIN SMALL LETTER GHA"]),
  (0x34F, ["CGJ"]),
  (0x61C, ["ALM"]),
  (0x200B, ["ZWSP"]),
  (0x200C, ["ZWNJ"]),
  (0x200D, ["ZWJ"]),
  (0x200E, ["LRM"]),
  (0x200F, ["RLM"]),
  (0x202A, ["LRE"]),
  (0x202B, ["RLE"]),
  (0x202C, ["PDF"]),
  (0x202D, ["LRO"]),
  (0x202E, ["RLO"]),
  (0x202F, ["NNBSP"]),
  (0x205F, ["MMSP"]),
  (0x2060, ["WJ"]),
  (0x2066, ["LRI"]),
  (0x2067, ["RLI"]),
  (0x2068, ["FSI"]),
  (0x2069, ["PDI"]),
  (0x2118, ["WEIERSTRASS ELLIPTIC FUNCTION"]),
  (0xFEFF, ["BOM", "BYTE ORDER MARK", "ZERO WIDTH NO-BREAK SPACE", "ZWNBSP"])]

/-- The names that a block lists, without the line breaks between them. -/
def namesIn (names : String) : List Text :=
  (names.splitOn ";").map fun name => name.toList.dropWhile fun c => c == ' ' || c == '\n'

/-- A listed name with its abbreviated words spelled out. -/
def spellOut : Text → Text
  | [] => []
  | c :: rest =>
    match leadWords c with
    | some words => words.toList ++ rest
    | none => c :: rest

/-- The number of the character to which a block gives the name. -/
def NameBlock.codeOf? (block : NameBlock) (name : Text) : Option Nat :=
  ((namesIn block.names).findIdx? (spellOut · == name)).map (block.first + ·)

/-- The ranges of the unified ideographs. -/
def ideographs : List (Nat × Nat) :=
  [(0x3400, 0x4DBF), (0x4E00, 0x9FFF), (0x20000, 0x2A6DF), (0x2A700, 0x2B738),
   (0x2B740, 0x2B81D), (0x2B820, 0x2CEA1), (0x2CEB0, 0x2EBE0), (0x30000, 0x3134A)]

/-- The number of an ideograph: its name ends in four or five hexadecimal digits that spell it,
all of them capital. -/
def ideographCode? (name : Text) : Option Nat := do
  let digits ← "CJK UNIFIED IDEOGRAPH-".toList.isPrefixOf? name
  let code := valueInBase 16 (digits.filterMap hexValue?)
  if (digits.length == 4 || digits.length == 5)
      && digits.all (fun c => isAsciiDigit c || 'A' ≤ c && c ≤ 'F')
      && ideographs.any (fun (first, last) => first ≤ code && code ≤ last) then
    some code
  else none

/-- The character with a name. Small letters in the name count as capitals, except in the name
of an ideograph. -/
def namedChar? (name : Text) : Option Char :=
  if name.isEmpty then none
  else
    let capital := name.map Char.toUpper
    let aliased := nameAliases.findSome? fun (code, aliases) =>
      if aliases.any (·.toList == capital) then some code else none
    (ideographCode? name
      <|> nameBlocks.findSome? (·.codeOf? capital)
      <|> aliased).map Char.ofNat

end RouteAtlas.Text
