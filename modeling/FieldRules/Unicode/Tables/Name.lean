/-!
Names of characters.
-/

namespace FieldRules.Unicode.Tables

/-- The names of all characters that have one of their own, and then other names of some. They are
in the order of their code points, from U+0020 on. Each begins with a sign for the number of
characters that it has in common with the name before; an equals sign and a code point stand before
the sign where the code points do not follow one another. Line ends do not count. -/
def names : String := "
SPACEaEXCLAMATION MARKaQUOTATION MARKaNUMBER SIGNaDOLLAR SIGNaPERCENT SIGNaAMPERSANDbPOSTROPHE
aLEFT PARENTHESISaRIGHT PARENTHESISaASTERISKaPLUS SIGNaCOMMAaHYPHEN-MINUSaFULL STOPaSOLIDUS
aDIGIT ZEROgONEgTWOhHREEgFOURhIVEgSIXhEVENgEIGHTgNINEaCOLONaSEMICOLONaLESS-THAN SIGNaEQUALS SIGN
aGREATER-THAN SIGNaQUESTION MARKaCOMMERCIAL ATaLATIN CAPITAL LETTER AvBvCvDvEvFvGvHvIvJvKvLvMvNvOvP
vQvRvSvTvUvVvWvXvYvZbEFT SQUARE BRACKETaREVERSE SOLIDUSbIGHT SQUARE BRACKETaCIRCUMFLEX ACCENT
aLOW LINEaGRAVE ACCENTaLATIN SMALL LETTER AtBtCtDtEtFtGtHtItJtKtLtMtNtOtPtQtRtStTtUtVtWtXtYtZ
bEFT CURLY BRACKETaVERTICAL LINEaRIGHT CURLY BRACKETaTILDE=A0aNO-BREAK SPACE
aINVERTED EXCLAMATION MARKaCENT SIGNaPOUND SIGNaCURRENCY SIGNaYEN SIGNaBROKEN BARaSECTION SIGN
aDIAERESISaCOPYRIGHT SIGNaFEMININE ORDINAL INDICATORaLEFT-POINTING DOUBLE ANGLE QUOTATION MARK
aNOT SIGNaSOFT HYPHENaREGISTERED SIGNaMACRONaDEGREE SIGNaPLUS-MINUS SIGNaSUPERSCRIPT TWOnHREE
aACUTE ACCENTaMICRO SIGNaPILCROW SIGNaMIDDLE DOTaCEDILLAaSUPERSCRIPT ONEaMASCULINE ORDINAL INDICATOR
aRIGHT-POINTING DOUBLE ANGLE QUOTATION MARKaVULGAR FRACTION ONE QUARTERuHALFqTHREE QUARTERS
aINVERTED QUESTION MARKaLATIN CAPITAL LETTER A WITH GRAVE(ACUTE(CIRCUMFLEX(TILDE(DIAERESIS
(RING ABOVEwEvC WITH CEDILLAvE WITH GRAVE(ACUTE(CIRCUMFLEX(DIAERESISvI WITH GRAVE(ACUTE(CIRCUMFLEX
(DIAERESISvETHvN WITH TILDEvO WITH GRAVE(ACUTE(CIRCUMFLEX(TILDE(DIAERESISaMULTIPLICATION SIGN
aLATIN CAPITAL LETTER O WITH STROKEvU WITH GRAVE(ACUTE(CIRCUMFLEX(DIAERESISvY WITH ACUTEvTHORN
gSMALL LETTER SHARP StA WITH GRAVE!ACUTE!CIRCUMFLEX!TILDE!DIAERESIS!RING ABOVEuEtC WITH CEDILLA
tE WITH GRAVE!ACUTE!CIRCUMFLEX!DIAERESIStI WITH GRAVE!ACUTE!CIRCUMFLEX!DIAERESIStETHtN WITH TILDE
tO WITH GRAVE!ACUTE!CIRCUMFLEX!TILDE!DIAERESISaDIVISION SIGNaLATIN SMALL LETTER O WITH STROKE
tU WITH GRAVE!ACUTE!CIRCUMFLEX!DIAERESIStY WITH ACUTEtTHORNtY WITH DIAERESIS
gCAPITAL LETTER A WITH MACRONgSMALL LETTER A WITH MACRONgCAPITAL LETTER A WITH BREVE
gSMALL LETTER A WITH BREVEgCAPITAL LETTER A WITH OGONEKgSMALL LETTER A WITH OGONEK
gCAPITAL LETTER C WITH ACUTEgSMALL LETTER C WITH ACUTEgCAPITAL LETTER C WITH CIRCUMFLEX
gSMALL LETTER C WITH CIRCUMFLEXgCAPITAL LETTER C WITH DOT ABOVEgSMALL LETTER C WITH DOT ABOVE
gCAPITAL LETTER C WITH CARONgSMALL LETTER C WITH CARONgCAPITAL LETTER D WITH CARON
gSMALL LETTER D WITH CARONgCAPITAL LETTER D WITH STROKEgSMALL LETTER D WITH STROKE
gCAPITAL LETTER E WITH MACRONgSMALL LETTER E WITH MACRONgCAPITAL LETTER E WITH BREVE
gSMALL LETTER E WITH BREVEgCAPITAL LETTER E WITH DOT ABOVEgSMALL LETTER E WITH DOT ABOVE
gCAPITAL LETTER E WITH OGONEKgSMALL LETTER E WITH OGONEKgCAPITAL LETTER E WITH CARON
gSMALL LETTER E WITH CARONgCAPITAL LETTER G WITH CIRCUMFLEXgSMALL LETTER G WITH CIRCUMFLEX
gCAPITAL LETTER G WITH BREVEgSMALL LETTER G WITH BREVEgCAPITAL LETTER G WITH DOT ABOVE
gSMALL LETTER G WITH DOT ABOVEgCAPITAL LETTER G WITH CEDILLAgSMALL LETTER G WITH CEDILLA
gCAPITAL LETTER H WITH CIRCUMFLEXgSMALL LETTER H WITH CIRCUMFLEXgCAPITAL LETTER H WITH STROKE
gSMALL LETTER H WITH STROKEgCAPITAL LETTER I WITH TILDEgSMALL LETTER I WITH TILDE
gCAPITAL LETTER I WITH MACRONgSMALL LETTER I WITH MACRONgCAPITAL LETTER I WITH BREVE
gSMALL LETTER I WITH BREVEgCAPITAL LETTER I WITH OGONEKgSMALL LETTER I WITH OGONEK
gCAPITAL LETTER I WITH DOT ABOVEgSMALL LETTER DOTLESS IgCAPITAL LIGATURE IJgSMALL LIGATURE IJ
gCAPITAL LETTER J WITH CIRCUMFLEXgSMALL LETTER J WITH CIRCUMFLEXgCAPITAL LETTER K WITH CEDILLA
gSMALL LETTER K WITH CEDILLAuRAgCAPITAL LETTER L WITH ACUTEgSMALL LETTER L WITH ACUTE
gCAPITAL LETTER L WITH CEDILLAgSMALL LETTER L WITH CEDILLAgCAPITAL LETTER L WITH CARON
gSMALL LETTER L WITH CARONgCAPITAL LETTER L WITH MIDDLE DOTgSMALL LETTER L WITH MIDDLE DOT
gCAPITAL LETTER L WITH STROKEgSMALL LETTER L WITH STROKEgCAPITAL LETTER N WITH ACUTE
gSMALL LETTER N WITH ACUTEgCAPITAL LETTER N WITH CEDILLAgSMALL LETTER N WITH CEDILLA
gCAPITAL LETTER N WITH CARONgSMALL LETTER N WITH CARONvPRECEDED BY APOSTROPHEgCAPITAL LETTER ENG
gSMALL LETTER ENGgCAPITAL LETTER O WITH MACRONgSMALL LETTER O WITH MACRON
gCAPITAL LETTER O WITH BREVEgSMALL LETTER O WITH BREVEgCAPITAL LETTER O WITH DOUBLE ACUTE
gSMALL LETTER O WITH DOUBLE ACUTEgCAPITAL LIGATURE OEgSMALL LIGATURE OEgCAPITAL LETTER R WITH ACUTE
gSMALL LETTER R WITH ACUTEgCAPITAL LETTER R WITH CEDILLAgSMALL LETTER R WITH CEDILLA
gCAPITAL LETTER R WITH CARONgSMALL LETTER R WITH CARONgCAPITAL LETTER S WITH ACUTE
gSMALL LETTER S WITH ACUTEgCAPITAL LETTER S WITH CIRCUMFLEXgSMALL LETTER S WITH CIRCUMFLEX
gCAPITAL LETTER S WITH CEDILLAgSMALL LETTER S WITH CEDILLAgCAPITAL LETTER S WITH CARON
gSMALL LETTER S WITH CARONgCAPITAL LETTER T WITH CEDILLAgSMALL LETTER T WITH CEDILLA
gCAPITAL LETTER T WITH CARONgSMALL LETTER T WITH CARONgCAPITAL LETTER T WITH STROKE
gSMALL LETTER T WITH STROKEgCAPITAL LETTER U WITH TILDEgSMALL LETTER U WITH TILDE
gCAPITAL LETTER U WITH MACRONgSMALL LETTER U WITH MACRONgCAPITAL LETTER U WITH BREVE
gSMALL LETTER U WITH BREVEgCAPITAL LETTER U WITH RING ABOVEgSMALL LETTER U WITH RING ABOVE
gCAPITAL LETTER U WITH DOUBLE ACUTEgSMALL LETTER U WITH DOUBLE ACUTEgCAPITAL LETTER U WITH OGONEK
gSMALL LETTER U WITH OGONEKgCAPITAL LETTER W WITH CIRCUMFLEXgSMALL LETTER W WITH CIRCUMFLEX
gCAPITAL LETTER Y WITH CIRCUMFLEXgSMALL LETTER Y WITH CIRCUMFLEXgCAPITAL LETTER Y WITH DIAERESIS
vZ WITH ACUTEgSMALL LETTER Z WITH ACUTEgCAPITAL LETTER Z WITH DOT ABOVE
gSMALL LETTER Z WITH DOT ABOVEgCAPITAL LETTER Z WITH CARONgSMALL LETTER Z WITH CARONtLONG S
tB WITH STROKEgCAPITAL LETTER B WITH HOOK(TOPBARgSMALL LETTER B WITH TOPBARgCAPITAL LETTER TONE SIX
gSMALL LETTER TONE SIXgCAPITAL LETTER OPEN OvC WITH HOOKgSMALL LETTER C WITH HOOK
gCAPITAL LETTER AFRICAN DvD WITH HOOK(TOPBARgSMALL LETTER D WITH TOPBARtTURNED DELTA
gCAPITAL LETTER REVERSED EvSCHWAvOPEN EvF WITH HOOKgSMALL LETTER F WITH HOOK
gCAPITAL LETTER G WITH HOOKwAMMAgSMALL LETTER HVgCAPITAL LETTER IOTAw WITH STROKEvK WITH HOOK
gSMALL LETTER K WITH HOOKtL WITH BARuAMBDA WITH STROKEgCAPITAL LETTER TURNED MvN WITH LEFT HOOK
gSMALL LETTER N WITH LONG RIGHT LEGgCAPITAL LETTER O WITH MIDDLE TILDE(HORNgSMALL LETTER O WITH HORN
gCAPITAL LETTER OIgSMALL LETTER OIgCAPITAL LETTER P WITH HOOKgSMALL LETTER P WITH HOOKgLETTER YR
gCAPITAL LETTER TONE TWOgSMALL LETTER TONE TWOgCAPITAL LETTER ESHgLETTER REVERSED ESH LOOP
gSMALL LETTER T WITH PALATAL HOOKgCAPITAL LETTER T WITH HOOKgSMALL LETTER T WITH HOOK
gCAPITAL LETTER T WITH RETROFLEX HOOKvU WITH HORNgSMALL LETTER U WITH HORNgCAPITAL LETTER UPSILON
vV WITH HOOKvY WITH HOOKgSMALL LETTER Y WITH HOOKgCAPITAL LETTER Z WITH STROKE
gSMALL LETTER Z WITH STROKEgCAPITAL LETTER EZHy REVERSEDgSMALL LETTER EZH REVERSEDxWITH TAIL
gLETTER TWO WITH STROKEgCAPITAL LETTER TONE FIVEgSMALL LETTER TONE FIVE
gLETTER INVERTED GLOTTAL STOP WITH STROKEnWYNNnDENTAL CLICKnLATERAL CLICKnALVEOLAR CLICK
nRETROFLEX CLICKgCAPITAL LETTER DZ WITH CARONw WITH SMALL LETTER Z WITH CARON
gSMALL LETTER DZ WITH CARONgCAPITAL LETTER LJw WITH SMALL LETTER JgSMALL LETTER LJgCAPITAL LETTER NJ
w WITH SMALL LETTER JgSMALL LETTER NJgCAPITAL LETTER A WITH CARONgSMALL LETTER A WITH CARON
gCAPITAL LETTER I WITH CARONgSMALL LETTER I WITH CARONgCAPITAL LETTER O WITH CARON
gSMALL LETTER O WITH CARONgCAPITAL LETTER U WITH CARONgSMALL LETTER U WITH CARON
gCAPITAL LETTER U WITH DIAERESIS AND MACRONgSMALL LETTER U WITH DIAERESIS AND MACRON
gCAPITAL LETTER U WITH DIAERESIS AND ACUTEgSMALL LETTER U WITH DIAERESIS AND ACUTE
gCAPITAL LETTER U WITH DIAERESIS AND CARONgSMALL LETTER U WITH DIAERESIS AND CARON
gCAPITAL LETTER U WITH DIAERESIS AND GRAVEgSMALL LETTER U WITH DIAERESIS AND GRAVEtTURNED E
gCAPITAL LETTER A WITH DIAERESIS AND MACRONgSMALL LETTER A WITH DIAERESIS AND MACRON
gCAPITAL LETTER A WITH DOT ABOVE AND MACRONgSMALL LETTER A WITH DOT ABOVE AND MACRON
gCAPITAL LETTER AE WITH MACRONgSMALL LETTER AE WITH MACRONgCAPITAL LETTER G WITH STROKE
gSMALL LETTER G WITH STROKEgCAPITAL LETTER G WITH CARONgSMALL LETTER G WITH CARON
gCAPITAL LETTER K WITH CARONgSMALL LETTER K WITH CARONgCAPITAL LETTER O WITH OGONEK
gSMALL LETTER O WITH OGONEKgCAPITAL LETTER O WITH OGONEK AND MACRON
gSMALL LETTER O WITH OGONEK AND MACRONgCAPITAL LETTER EZH WITH CARONgSMALL LETTER EZH WITH CARON
tJ WITH CARONgCAPITAL LETTER DZw WITH SMALL LETTER ZgSMALL LETTER DZgCAPITAL LETTER G WITH ACUTE
gSMALL LETTER G WITH ACUTEgCAPITAL LETTER HWAIRvWYNNvN WITH GRAVEgSMALL LETTER N WITH GRAVE
gCAPITAL LETTER A WITH RING ABOVE AND ACUTEgSMALL LETTER A WITH RING ABOVE AND ACUTE
gCAPITAL LETTER AE WITH ACUTEgSMALL LETTER AE WITH ACUTEgCAPITAL LETTER O WITH STROKE AND ACUTE
gSMALL LETTER O WITH STROKE AND ACUTEgCAPITAL LETTER A WITH DOUBLE GRAVE
gSMALL LETTER A WITH DOUBLE GRAVEgCAPITAL LETTER A WITH INVERTED BREVE
gSMALL LETTER A WITH INVERTED BREVEgCAPITAL LETTER E WITH DOUBLE GRAVE
gSMALL LETTER E WITH DOUBLE GRAVEgCAPITAL LETTER E WITH INVERTED BREVE
gSMALL LETTER E WITH INVERTED BREVEgCAPITAL LETTER I WITH DOUBLE GRAVE
gSMALL LETTER I WITH DOUBLE GRAVEgCAPITAL LETTER I WITH INVERTED BREVE
gSMALL LETTER I WITH INVERTED BREVEgCAPITAL LETTER O WITH DOUBLE GRAVE
gSMALL LETTER O WITH DOUBLE GRAVEgCAPITAL LETTER O WITH INVERTED BREVE
gSMALL LETTER O WITH INVERTED BREVEgCAPITAL LETTER R WITH DOUBLE GRAVE
gSMALL LETTER R WITH DOUBLE GRAVEgCAPITAL LETTER R WITH INVERTED BREVE
gSMALL LETTER R WITH INVERTED BREVEgCAPITAL LETTER U WITH DOUBLE GRAVE
gSMALL LETTER U WITH DOUBLE GRAVEgCAPITAL LETTER U WITH INVERTED BREVE
gSMALL LETTER U WITH INVERTED BREVEgCAPITAL LETTER S WITH COMMA BELOW
gSMALL LETTER S WITH COMMA BELOWgCAPITAL LETTER T WITH COMMA BELOWgSMALL LETTER T WITH COMMA BELOW
gCAPITAL LETTER YOGHgSMALL LETTER YOGHgCAPITAL LETTER H WITH CARONgSMALL LETTER H WITH CARON
gCAPITAL LETTER N WITH LONG RIGHT LEGgSMALL LETTER D WITH CURLgCAPITAL LETTER OUgSMALL LETTER OU
gCAPITAL LETTER Z WITH HOOKgSMALL LETTER Z WITH HOOKgCAPITAL LETTER A WITH DOT ABOVE
gSMALL LETTER A WITH DOT ABOVEgCAPITAL LETTER E WITH CEDILLAgSMALL LETTER E WITH CEDILLA
gCAPITAL LETTER O WITH DIAERESIS AND MACRONgSMALL LETTER O WITH DIAERESIS AND MACRON
gCAPITAL LETTER O WITH TILDE AND MACRONgSMALL LETTER O WITH TILDE AND MACRON
gCAPITAL LETTER O WITH DOT ABOVEgSMALL LETTER O WITH DOT ABOVE
gCAPITAL LETTER O WITH DOT ABOVE AND MACRONgSMALL LETTER O WITH DOT ABOVE AND MACRON
gCAPITAL LETTER Y WITH MACRONgSMALL LETTER Y WITH MACRONtL WITH CURLtN WITH CURLtT WITH CURL
tDOTLESS JuB DIGRAPHtQP DIGRAPHgCAPITAL LETTER A WITH STROKEvC WITH STROKE
gSMALL LETTER C WITH STROKEgCAPITAL LETTER L WITH BARvT WITH DIAGONAL STROKE
gSMALL LETTER S WITH SWASH TAILtZ WITH SWASH TAILgCAPITAL LETTER GLOTTAL STOP
gSMALL LETTER GLOTTAL STOPgCAPITAL LETTER B WITH STROKEvU BARvTURNED VvE WITH STROKE
gSMALL LETTER E WITH STROKEgCAPITAL LETTER J WITH STROKEgSMALL LETTER J WITH STROKE
gCAPITAL LETTER SMALL Q WITH HOOK TAILgSMALL LETTER Q WITH HOOK TAILgCAPITAL LETTER R WITH STROKE
gSMALL LETTER R WITH STROKEgCAPITAL LETTER Y WITH STROKEgSMALL LETTER Y WITH STROKEtTURNED AtALPHA
tTURNED ALPHAtB WITH HOOKtOPEN OtC WITH CURLtD WITH TAIL!HOOKtREVERSED EtSCHWAy WITH HOOKtOPEN E
tREVERSED OPEN E: WITH HOOKtCLOSED REVERSED OPEN EtDOTLESS J WITH STROKEtG WITH HOOKtSCRIPT G
gLETTER SMALL CAPITAL GgSMALL LETTER GAMMAtRAMS HORNtTURNED HtH WITH HOOKuENG WITH HOOK
tI WITH STROKEuOTAgLETTER SMALL CAPITAL IgSMALL LETTER L WITH MIDDLE TILDE!BELT!RETROFLEX HOOKuEZH
tTURNED M& WITH LONG LEGtM WITH HOOKtN WITH LEFT HOOK!RETROFLEX HOOKgLETTER SMALL CAPITAL N
gSMALL LETTER BARRED OgLETTER SMALL CAPITAL OEgSMALL LETTER CLOSED OMEGAtPHItTURNED R& WITH LONG LEG
.HOOKtR WITH LONG LEG!TAIL!FISHHOOKuEVERSED R WITH FISHHOOKgLETTER SMALL CAPITAL R&INVERTED R
gSMALL LETTER S WITH HOOKtESHtDOTLESS J WITH STROKE AND HOOKtSQUAT REVERSED ESHtESH WITH CURL
tTURNED Tu WITH RETROFLEX HOOKtU BARuPSILONtV WITH HOOKtTURNED V!W!YgLETTER SMALL CAPITAL Y
gSMALL LETTER Z WITH RETROFLEX HOOK!CURLtEZHw WITH CURLgLETTER GLOTTAL STOP
nPHARYNGEAL VOICED FRICATIVEnINVERTED GLOTTAL STOPnSTRETCHED CnBILABIAL CLICKnSMALL CAPITAL B
gSMALL LETTER CLOSED OPEN EgLETTER SMALL CAPITAL G WITH HOOK&HgSMALL LETTER J WITH CROSSED-TAIL
tTURNED KgLETTER SMALL CAPITAL LgSMALL LETTER Q WITH HOOKgLETTER GLOTTAL STOP WITH STROKE
nREVERSED GLOTTAL STOP WITH STROKEgSMALL LETTER DZ DIGRAPHuEZH DIGRAPHuZ DIGRAPH WITH CURL
tTS DIGRAPHuESH DIGRAPHuC DIGRAPH WITH CURLtFENG DIGRAPHtLS DIGRAPHuZ DIGRAPH
gLETTER BILABIAL PERCUSSIVEpDENTAL PERCUSSIVEgSMALL LETTER TURNED H WITH FISHHOOK^ AND TAIL
aMODIFIER LETTER SMALL Hx WITH HOOKwJwRwTURNED R* WITH HOOKwCAPITAL INVERTED RwWwYqPRIME
qDOUBLE PRIMEqTURNED COMMAqAPOSTROPHEqREVERSED COMMArIGHT HALF RINGqLEFT HALF RINGqGLOTTAL STOP
qREVERSED GLOTTAL STOPqLEFT ARROWHEADqRIGHT ARROWHEADqUP ARROWHEADqDOWN ARROWHEADqCIRCUMFLEX ACCENT
aCARONaMODIFIER LETTER VERTICAL LINEqMACRONqACUTE ACCENTqGRAVE ACCENTqLOW VERTICAL LINEuMACRON
uGRAVE ACCENTuACUTE ACCENTqTRIANGULAR COLONqHALF TRIANGULAR COLONqCENTRED RIGHT HALF RING
yLEFT HALF RINGqUP TACKqDOWN TACKqPLUS SIGNqMINUS SIGNaBREVEaDOT ABOVEaRING ABOVEaOGONEKaSMALL TILDE
aDOUBLE ACUTE ACCENTaMODIFIER LETTER RHOTIC HOOKqCROSS ACCENTqSMALL GAMMAwLwSwX
wREVERSED GLOTTAL STOPqEXTRA-HIGH TONE BARqHIGH TONE BARqMID TONE BARqLOW TONE BAR
qEXTRA-LOW TONE BARqYIN DEPARTING TONE MARKrANG DEPARTING TONE MARKqVOICINGqUNASPIRATED
qDOUBLE APOSTROPHEqLOW DOWN ARROWHEADuUP ARROWHEADuLEFT ARROWHEADuRIGHT ARROWHEADwNG
qMIDDLE GRAVE ACCENTxDOUBLE GRAVE ACCENT*ACUTE ACCENTqLOW TILDEqRAISED COLONqBEGIN HIGH TONE
qEND HIGH TONEqBEGIN LOW TONEqEND LOW TONEqSHELFqOPEN SHELFqLOW LEFT ARROWaCOMBINING GRAVE ACCENT
kACUTE ACCENTkCIRCUMFLEX ACCENTkTILDEkMACRONkOVERLINEkBREVEkDOT ABOVElIAERESISkHOOK ABOVEkRING ABOVE
kDOUBLE ACUTE ACCENTkCARONkVERTICAL LINE ABOVEkDOUBLE VERTICAL LINE ABOVErGRAVE ACCENTkCANDRABINDU
kINVERTED BREVEkTURNED COMMA ABOVEkCOMMA ABOVEkREVERSED COMMA ABOVEkCOMMA ABOVE RIGHT
kGRAVE ACCENT BELOWkACUTE ACCENT BELOWkLEFT TACK BELOWkRIGHT TACK BELOWkLEFT ANGLE ABOVEkHORN
kLEFT HALF RING BELOWkUP TACK BELOWkDOWN TACK BELOWkPLUS SIGN BELOWkMINUS SIGN BELOW
kPALATALIZED HOOK BELOWkRETROFLEX HOOK BELOWkDOT BELOWlIAERESIS BELOWkRING BELOWkCOMMA BELOWlEDILLA
kOGONEKkVERTICAL LINE BELOWkBRIDGE BELOWkINVERTED DOUBLE ARCH BELOWkCARON BELOW
lIRCUMFLEX ACCENT BELOWkBREVE BELOWkINVERTED BREVE BELOWkTILDE BELOWkMACRON BELOWkLOW LINE
kDOUBLE LOW LINEkTILDE OVERLAYkSHORT STROKE OVERLAYkLONG STROKE OVERLAYkSHORT SOLIDUS OVERLAY
kLONG SOLIDUS OVERLAYkRIGHT HALF RING BELOWkINVERTED BRIDGE BELOWkSQUARE BELOWlEAGULL BELOWkX ABOVE
kVERTICAL TILDEkDOUBLE OVERLINEkGRAVE TONE MARKkACUTE TONE MARKkGREEK PERISPOMENIqKORONIS
qDIALYTIKA TONOSqYPOGEGRAMMENIkBRIDGE ABOVEkEQUALS SIGN BELOWkDOUBLE VERTICAL LINE BELOW
kLEFT ANGLE BELOWkNOT TILDE ABOVEkHOMOTHETIC ABOVEkALMOST EQUAL TO ABOVEkLEFT RIGHT ARROW BELOW
kUPWARDS ARROW BELOWkGRAPHEME JOINERkRIGHT ARROWHEAD ABOVEkLEFT HALF RING ABOVEkFERMATAkX BELOW
kLEFT ARROWHEAD BELOWkRIGHT ARROWHEAD BELOW!AND UP ARROWHEAD BELOWqHALF RING ABOVEkDOT ABOVE RIGHT
kASTERISK BELOWkDOUBLE RING BELOWkZIGZAG ABOVEkDOUBLE BREVE BELOWwrMACRONx BELOWrTILDE
rINVERTED BREVErRIGHTWARDS ARROW BELOWkLATIN SMALL LETTER A)E)I)O)U)C)D)H)M)R)T)V)X
aGREEK CAPITAL LETTER HETAgSMALL LETTER HETAgCAPITAL LETTER ARCHAIC SAMPIgSMALL LETTER ARCHAIC SAMPI
gNUMERAL SIGNgLOWER NUMERAL SIGNgCAPITAL LETTER PAMPHYLIAN DIGAMMAgSMALL LETTER PAMPHYLIAN DIGAMMA
=37AgYPOGEGRAMMENIgSMALL REVERSED LUNATE SIGMA SYMBOLmDOTTED LUNATE SIGMA SYMBOL
mREVERSED DOTTED LUNATE SIGMA SYMBOLgQUESTION MARKgCAPITAL LETTER YOT=384gTONOSgDIALYTIKA TONOS
gCAPITAL LETTER ALPHA WITH TONOSgANO TELEIAgCAPITAL LETTER EPSILON WITH TONOSwTA WITH TONOS
vIOTA WITH TONOS=38CvOMICRON WITH TONOS=38EvUPSILON WITH TONOSvOMEGA WITH TONOS
gSMALL LETTER IOTA WITH DIALYTIKA AND TONOSgCAPITAL LETTER ALPHAvBETAvGAMMAvDELTAvEPSILONvZETAvETA
vTHETAvIOTAvKAPPAvLAMDAvMUvNUvXIvOMICRONvPIvRHO=3A3vSIGMAvTAUvUPSILONvPHIvCHIvPSIvOMEGA
vIOTA WITH DIALYTIKAvUPSILON WITH DIALYTIKAgSMALL LETTER ALPHA WITH TONOStEPSILON WITH TONOS
uTA WITH TONOStIOTA WITH TONOStUPSILON WITH DIALYTIKA AND TONOStALPHAtBETAtGAMMAtDELTAtEPSILONtZETA
tETAtTHETAtIOTAtKAPPAtLAMDAtMUtNUtXItOMICRONtPItRHOtFINAL SIGMAtSIGMAtTAUtUPSILONtPHItCHItPSItOMEGA
tIOTA WITH DIALYTIKAtUPSILON WITH DIALYTIKAtOMICRON WITH TONOStUPSILON WITH TONOStOMEGA WITH TONOS
gCAPITAL KAI SYMBOLgBETA SYMBOLgTHETA SYMBOLgUPSILON WITH HOOK SYMBOLtACUTE AND HOOK SYMBOL
tDIAERESIS AND HOOK SYMBOLgPHI SYMBOLhI SYMBOLgKAI SYMBOLgLETTER ARCHAIC KOPPA
gSMALL LETTER ARCHAIC KOPPAgLETTER STIGMAgSMALL LETTER STIGMAgLETTER DIGAMMAgSMALL LETTER DIGAMMA
gLETTER KOPPAgSMALL LETTER KOPPAgLETTER SAMPIgSMALL LETTER SAMPIaCOPTIC CAPITAL LETTER SHEI
hSMALL LETTER SHEIhCAPITAL LETTER FEIhSMALL LETTER FEIhCAPITAL LETTER KHEIhSMALL LETTER KHEI
hCAPITAL LETTER HORIhSMALL LETTER HORIhCAPITAL LETTER GANGIAhSMALL LETTER GANGIA
hCAPITAL LETTER SHIMAhSMALL LETTER SHIMAhCAPITAL LETTER DEIhSMALL LETTER DEIaGREEK KAPPA SYMBOL
gRHO SYMBOLgLUNATE SIGMA SYMBOLhETTER YOTgCAPITAL THETA SYMBOLgLUNATE EPSILON SYMBOL
gREVERSED LUNATE EPSILON SYMBOLgCAPITAL LETTER SHOgSMALL LETTER SHOgCAPITAL LUNATE SIGMA SYMBOL
pETTER SANgSMALL LETTER SANgRHO WITH STROKE SYMBOLgCAPITAL REVERSED LUNATE SIGMA SYMBOL
oDOTTED LUNATE SIGMA SYMBOLoREVERSED DOTTED LUNATE SIGMA SYMBOL
aCYRILLIC CAPITAL LETTER IE WITH GRAVEzOyDJEyGJEyUKRAINIAN IEyDZEyBYELORUSSIAN-UKRAINIAN IyYIyJEyLJE
yNJEyTSHEyKJEyI WITH GRAVEySHORT UyDZHEyAyBEyVEyGHEyDEyIEyZHEzEyIySHORT IyKAyELzMzNyOyPEyERzSyTEyU
yEFyHAyTSEyCHEySHA!CHAyHARD SIGNyYERUySOFT SIGNyEyYUzAjSMALL LETTER AwBEwVEwGHEwDEwIEwZHExEwI
wSHORT IwKAwELxMxNwOwPEwERxSwTEwUwEFwHAwTSEwCHEwSHAyCHAwHARD SIGNwYERUwSOFT SIGNwEwYUxA
wIE WITH GRAVExOwDJEwGJEwUKRAINIAN IEwDZEwBYELORUSSIAN-UKRAINIAN IwYIwJEwLJEwNJEwTSHEwKJE
wI WITH GRAVEwSHORT UwDZHEjCAPITAL LETTER OMEGAjSMALL LETTER OMEGAjCAPITAL LETTER YAT
jSMALL LETTER YATjCAPITAL LETTER IOTIFIED EjSMALL LETTER IOTIFIED EjCAPITAL LETTER LITTLE YUS
jSMALL LETTER LITTLE YUSjCAPITAL LETTER IOTIFIED LITTLE YUSjSMALL LETTER IOTIFIED LITTLE YUS
jCAPITAL LETTER BIG YUSjSMALL LETTER BIG YUSjCAPITAL LETTER IOTIFIED BIG YUS
jSMALL LETTER IOTIFIED BIG YUSjCAPITAL LETTER KSIjSMALL LETTER KSIjCAPITAL LETTER PSI
jSMALL LETTER PSIjCAPITAL LETTER FITAjSMALL LETTER FITAjCAPITAL LETTER IZHITSAjSMALL LETTER IZHITSA
jCAPITAL LETTER IZHITSA WITH DOUBLE GRAVE ACCENTjSMALL LETTER IZHITSA WITH DOUBLE GRAVE ACCENT
jCAPITAL LETTER UKjSMALL LETTER UKjCAPITAL LETTER ROUND OMEGAjSMALL LETTER ROUND OMEGA
jCAPITAL LETTER OMEGA WITH TITLOjSMALL LETTER OMEGA WITH TITLOjCAPITAL LETTER OTjSMALL LETTER OT
jCAPITAL LETTER KOPPAjSMALL LETTER KOPPAjTHOUSANDS SIGNbOMBINING CYRILLIC TITLOtPALATALIZATION
tDASIA PNEUMATAtPSILI PNEUMATAuOKRYTIEtHUNDRED THOUSANDS SIGNtMILLIONS SIGN
bYRILLIC CAPITAL LETTER SHORT I WITH TAILjSMALL LETTER SHORT I WITH TAIL
jCAPITAL LETTER SEMISOFT SIGNjSMALL LETTER SEMISOFT SIGNjCAPITAL LETTER ER WITH TICK
jSMALL LETTER ER WITH TICKjCAPITAL LETTER GHE WITH UPTURNjSMALL LETTER GHE WITH UPTURN
jCAPITAL LETTER GHE WITH STROKEjSMALL LETTER GHE WITH STROKEjCAPITAL LETTER GHE WITH MIDDLE HOOK
jSMALL LETTER GHE WITH MIDDLE HOOKjCAPITAL LETTER ZHE WITH DESCENDERjSMALL LETTER ZHE WITH DESCENDER
jCAPITAL LETTER ZE WITH DESCENDERjSMALL LETTER ZE WITH DESCENDERjCAPITAL LETTER KA WITH DESCENDER
jSMALL LETTER KA WITH DESCENDERjCAPITAL LETTER KA WITH VERTICAL STROKE
jSMALL LETTER KA WITH VERTICAL STROKEjCAPITAL LETTER KA WITH STROKEjSMALL LETTER KA WITH STROKE
jCAPITAL LETTER BASHKIR KAjSMALL LETTER BASHKIR KAjCAPITAL LETTER EN WITH DESCENDER
jSMALL LETTER EN WITH DESCENDERjCAPITAL LIGATURE EN GHEjSMALL LIGATURE EN GHE
jCAPITAL LETTER PE WITH MIDDLE HOOKjSMALL LETTER PE WITH MIDDLE HOOKjCAPITAL LETTER ABKHASIAN HA
jSMALL LETTER ABKHASIAN HAjCAPITAL LETTER ES WITH DESCENDERjSMALL LETTER ES WITH DESCENDER
jCAPITAL LETTER TE WITH DESCENDERjSMALL LETTER TE WITH DESCENDERjCAPITAL LETTER STRAIGHT U
jSMALL LETTER STRAIGHT UjCAPITAL LETTER STRAIGHT U WITH STROKEjSMALL LETTER STRAIGHT U WITH STROKE
jCAPITAL LETTER HA WITH DESCENDERjSMALL LETTER HA WITH DESCENDERjCAPITAL LIGATURE TE TSE
jSMALL LIGATURE TE TSEjCAPITAL LETTER CHE WITH DESCENDERjSMALL LETTER CHE WITH DESCENDER
jCAPITAL LETTER CHE WITH VERTICAL STROKEjSMALL LETTER CHE WITH VERTICAL STROKEjCAPITAL LETTER SHHA
jSMALL LETTER SHHAjCAPITAL LETTER ABKHASIAN CHEjSMALL LETTER ABKHASIAN CHE
jCAPITAL LETTER ABKHASIAN CHE WITH DESCENDERjSMALL LETTER ABKHASIAN CHE WITH DESCENDER
jLETTER PALOCHKAjCAPITAL LETTER ZHE WITH BREVEjSMALL LETTER ZHE WITH BREVE
jCAPITAL LETTER KA WITH HOOKjSMALL LETTER KA WITH HOOKjCAPITAL LETTER EL WITH TAIL
jSMALL LETTER EL WITH TAILjCAPITAL LETTER EN WITH HOOKjSMALL LETTER EN WITH HOOK
jCAPITAL LETTER EN WITH TAILjSMALL LETTER EN WITH TAILjCAPITAL LETTER KHAKASSIAN CHE
jSMALL LETTER KHAKASSIAN CHEjCAPITAL LETTER EM WITH TAILjSMALL LETTER EM WITH TAILwPALOCHKA
jCAPITAL LETTER A WITH BREVEjSMALL LETTER A WITH BREVEjCAPITAL LETTER A WITH DIAERESIS
jSMALL LETTER A WITH DIAERESISjCAPITAL LIGATURE A IEjSMALL LIGATURE A IE
jCAPITAL LETTER IE WITH BREVEjSMALL LETTER IE WITH BREVEjCAPITAL LETTER SCHWAjSMALL LETTER SCHWA
jCAPITAL LETTER SCHWA WITH DIAERESISjSMALL LETTER SCHWA WITH DIAERESIS
jCAPITAL LETTER ZHE WITH DIAERESISjSMALL LETTER ZHE WITH DIAERESISjCAPITAL LETTER ZE WITH DIAERESIS
jSMALL LETTER ZE WITH DIAERESISjCAPITAL LETTER ABKHASIAN DZEjSMALL LETTER ABKHASIAN DZE
jCAPITAL LETTER I WITH MACRONjSMALL LETTER I WITH MACRONjCAPITAL LETTER I WITH DIAERESIS
jSMALL LETTER I WITH DIAERESISjCAPITAL LETTER O WITH DIAERESISjSMALL LETTER O WITH DIAERESIS
jCAPITAL LETTER BARRED OjSMALL LETTER BARRED OjCAPITAL LETTER BARRED O WITH DIAERESIS
jSMALL LETTER BARRED O WITH DIAERESISjCAPITAL LETTER E WITH DIAERESISjSMALL LETTER E WITH DIAERESIS
jCAPITAL LETTER U WITH MACRONjSMALL LETTER U WITH MACRONjCAPITAL LETTER U WITH DIAERESIS
jSMALL LETTER U WITH DIAERESISjCAPITAL LETTER U WITH DOUBLE ACUTEjSMALL LETTER U WITH DOUBLE ACUTE
jCAPITAL LETTER CHE WITH DIAERESISjSMALL LETTER CHE WITH DIAERESISjCAPITAL LETTER GHE WITH DESCENDER
jSMALL LETTER GHE WITH DESCENDERjCAPITAL LETTER YERU WITH DIAERESISjSMALL LETTER YERU WITH DIAERESIS
jCAPITAL LETTER GHE WITH STROKE AND HOOKjSMALL LETTER GHE WITH STROKE AND HOOK
jCAPITAL LETTER HA WITH HOOKjSMALL LETTER HA WITH HOOKjCAPITAL LETTER HA WITH STROKE
jSMALL LETTER HA WITH STROKEjCAPITAL LETTER KOMI DEjSMALL LETTER KOMI DEjCAPITAL LETTER KOMI DJE
jSMALL LETTER KOMI DJEjCAPITAL LETTER KOMI ZJEjSMALL LETTER KOMI ZJEjCAPITAL LETTER KOMI DZJE
jSMALL LETTER KOMI DZJEjCAPITAL LETTER KOMI LJEjSMALL LETTER KOMI LJEjCAPITAL LETTER KOMI NJE
jSMALL LETTER KOMI NJEjCAPITAL LETTER KOMI SJEjSMALL LETTER KOMI SJEjCAPITAL LETTER KOMI TJE
jSMALL LETTER KOMI TJEjCAPITAL LETTER REVERSED ZEjSMALL LETTER REVERSED ZE
jCAPITAL LETTER EL WITH HOOKjSMALL LETTER EL WITH HOOKjCAPITAL LETTER LHAjSMALL LETTER LHA
jCAPITAL LETTER RHAjSMALL LETTER RHAjCAPITAL LETTER YAEjSMALL LETTER YAEjCAPITAL LETTER QA
jSMALL LETTER QAjCAPITAL LETTER WEjSMALL LETTER WEjCAPITAL LETTER ALEUT KAjSMALL LETTER ALEUT KA
jCAPITAL LETTER EL WITH MIDDLE HOOKjSMALL LETTER EL WITH MIDDLE HOOK
jCAPITAL LETTER EN WITH MIDDLE HOOKjSMALL LETTER EN WITH MIDDLE HOOK
jCAPITAL LETTER PE WITH DESCENDERjSMALL LETTER PE WITH DESCENDERjCAPITAL LETTER SHHA WITH DESCENDER
jSMALL LETTER SHHA WITH DESCENDERjCAPITAL LETTER EN WITH LEFT HOOKjSMALL LETTER EN WITH LEFT HOOK
jCAPITAL LETTER DZZHEjSMALL LETTER DZZHEjCAPITAL LETTER DCHEjSMALL LETTER DCHE
jCAPITAL LETTER EL WITH DESCENDERjSMALL LETTER EL WITH DESCENDER=531aARMENIAN CAPITAL LETTER AYByBEN
yGIMyDAyECHyZAyEHzTyTOyZHEyINIyLIWNyXEHyCAyKENyHOyJAyGHADyCHEHyMENyYIyNOWySHAyVOyCHAyPEHyJHEHyRAySEH
yVEWyTIWNyREHyCOyYIWNyPIWRyKEHyOHyFEH=559jMODIFIER LETTER LEFT HALF RINGjAPOSTROPHEjEMPHASIS MARK
kXCLAMATION MARKjCOMMAjQUESTION MARKjABBREVIATION MARKjSMALL LETTER TURNED AYBwAYBwBENwGIMwDAwECHwZA
wEHxTwTOwZHEwINIwLIWNwXEHwCAwKENwHOwJAwGHADwCHEHwMENwYIwNOWwSHAwVOwCHAwPEHwJHEHwRAwSEHwVEWwTIWNwREH
wCOwYIWNwPIWRwKEHwOHwFEHqIGATURE ECH YIWNqETTER YI WITH STROKEjFULL STOPjHYPHEN
=58DaRIGHT-FACING ARMENIAN ETERNITY SIGNaLEFT-FACING ARMENIAN ETERNITY SIGNaARMENIAN DRAM SIGN
=591aHEBREW ACCENT ETNAHTAoSEGOLpHALSHELEToZAQEF QATANuGADOLoTIPEHAoREVIAoZARQAoPASHTAoYETIVoTEVIR
oGERESHu MUQDAMrSHAYIMoQARNEY PARAoTELISHA GEDOLAoPAZERoATNAH HAFUKHoMUNAHpAHAPAKHpERKHAu KEFULA
oDARGAoQADMAoTELISHA QETANAoYERAH BEN YOMOoOLEoILUYoDEHIoZINORhMARK MASORA CIRCLEhPOINT SHEVA
nHATAF SEGOLtPATAHtQAMATSoIRIQnTSEREnSEGOLnPATAHnQAMATSnHOLAMs HASER FOR VAVnQUBUTSnDAGESH OR MAPIQ
nMETEGiUNCTUATION MAQAFiOINT RAFEiUNCTUATION PASEQiOINT SHIN DOToIN DOTiUNCTUATION SOF PASUQ
hMARK UPPER DOTmLOWER DOThPUNCTUATION NUN HAFUKHAiOINT QAMATS QATAN=5D0hLETTER ALEFoBEToGIMELoDALET
oHEoVAVoZAYINoHEToTEToYODoFINAL KAFoKAFoLAMEDoFINAL MEMoMEMoFINAL NUNoNUNoSAMEKHoAYINoFINAL PEoPE
oFINAL TSADIoTSADIoQOFoRESHoSHINoTAV=5EFhYOD TRIANGLEhLIGATURE YIDDISH DOUBLE VAVyVAV YODyDOUBLE YOD
hPUNCTUATION GERESHwSHAYIM=600aARABIC NUMBER SIGNhSIGN SANAHhFOOTNOTE MARKERhSIGN SAFHAoMVAT
hNUMBER MARK ABOVEg-INDIC CUBE ROOTnFOURTH ROOTg RAYg-INDIC PER MILLE SIGNrTEN THOUSAND SIGN
bFGHANI SIGNbRABIC COMMAhDATE SEPARATORhPOETIC VERSE SIGNhSIGN MISRAmSALLALLAHOU ALAYHE WASSALLAM
mALAYHE ASSALLAMmRAHMATULLAH ALAYHEoDI ALLAHOU ANHUmTAKHALLUSiMALL HIGH TAH
sLIGATURE ALEF WITH LAM WITH YEHsZAINnFATHAnDAMMAnKASRAiEMICOLONhLETTER MARKhEND OF TEXT MARK
hTRIPLE DOT PUNCTUATION MARKhQUESTION MARKhLETTER KASHMIRI YEHoHAMZAoALEF WITH MADDA ABOVE
yHAMZA ABOVEoWAW WITH HAMZA ABOVEoALEF WITH HAMZA BELOWoYEH WITH HAMZA ABOVEoALEFoBEHoTEH MARBUTAr
pHEHoJEEMoHAHoKHAHoDALoTHALoREHoZAINoSEENpHEENpADoDADoTAHoZAHoAINoGHAINoKEHEH WITH TWO DOTS ABOVE
!HREE DOTS BELOWoFARSI YEH WITH INVERTED V)TWO DOTS ABOVE*HREE DOTS ABOVEhTATWEELhLETTER FEHoQAFoKAF
oLAMoMEEMoNOONoHEHoWAWoALEF MAKSURAoYEHhFATHATANhDAMMATANhKASRATANhFATHAhDAMMAhKASRAhSHADDAiUKUN
hMADDAH ABOVEhHAMZA ABOVEnBELOWhSUBSCRIPT ALEFhINVERTED DAMMAhMARK NOON GHUNNAhZWARAKAY
hVOWEL SIGN SMALL V ABOVEsINVERTED SMALL V ABOVEsDOT BELOWhREVERSED DAMMAhFATHA WITH TWO DOTS
hWAVY HAMZA BELOWg-INDIC DIGIT ZEROtONEtTWOuHREEtFOURuIVEtSIXuEVENtEIGHTtNINEg PERCENT SIGN
hDECIMAL SEPARATORhTHOUSANDS SEPARATORhFIVE POINTED STARhLETTER DOTLESS BEHwQAFoSUPERSCRIPT ALEF
oALEF WASLAuITH WAVY HAMZA ABOVE;BELOWoHIGH HAMZAy ALEFzWAWoU WITH HAMZA ABOVEoHIGH HAMZA YEHoTTEH
sEHoBEEHoTEH WITH RINGxTHREE DOTS ABOVE DOWNWARDSoPEHoTEHEHoBEHEHoHAH WITH HAMZA ABOVE
xTWO DOTS VERTICAL ABOVEoNYEHoDYEHoHAH WITH THREE DOTS ABOVEoTCHEHtEHoDDALpAL WITH RINGxDOT BELOW
, AND SMALL TAHqHALpDAHALpULpAL WITH THREE DOTS ABOVE DOWNWARDSxFOUR DOTS ABOVEoRREHpEH WITH SMALL V
xRINGxDOT BELOWxSMALL V BELOWxDOT BELOW AND DOT ABOVExTWO DOTS ABOVEoJEHoREH WITH FOUR DOTS ABOVE
oSEEN WITH DOT BELOW AND DOT ABOVEyTHREE DOTS BELOW] AND THREE DOTS ABOVEpAD WITH TWO DOTS BELOW
yHREE DOTS ABOVEoTAH WITH THREE DOTS ABOVEoAIN WITH THREE DOTS ABOVEoDOTLESS FEH
oFEH WITH DOT MOVED BELOW&BELOWoVEHoFEH WITH THREE DOTS BELOWoPEHEHoQAF WITH DOT ABOVE
xTHREE DOTS ABOVEoKEHEHoSWASH KAFoKAF WITH RINGxDOT ABOVEoNGoKAF WITH THREE DOTS BELOWoGAF
r WITH RINGoNGOEHoGAF WITH TWO DOTS BELOWpUEHpAF WITH THREE DOTS ABOVEoLAM WITH SMALL VxDOT ABOVE
xTHREE DOTS ABOVE:BELOWoNOON WITH DOT BELOWtGHUNNAoRNOONoNOON WITH RINGyTHREE DOTS ABOVE
oHEH DOACHASHMEEoTCHEH WITH DOT ABOVEoHEH WITH YEH ABOVEsGOALw WITH HAMZA ABOVEoTEH MARBUTA GOAL
oWAW WITH RINGoKIRGHIZ OEoOEoUoYUoKIRGHIZ YUoWAW WITH TWO DOTS ABOVEoVEoFARSI YEHoYEH WITH TAIL
xSMALL VoWAW WITH DOT ABOVEoEoYEH WITH THREE DOTS BELOWsBARREEy WITH HAMZA ABOVEhFULL STOPhLETTER AE
hSMALL HIGH LIGATURE SAD WITH LAM WITH ALEF MAKSURA&QAF WITH LAM WITH ALEF MAKSURAsMEEM INITIAL FORM
sLAM ALEFsJEEMsTHREE DOTSsSEENhEND OF AYAHhSTART OF RUB EL HIZBiMALL HIGH ROUNDED ZERO
sUPRIGHT RECTANGULAR ZEROsDOTLESS HEAD OF KHAHsMEEM ISOLATED FORMnLOW SEENnHIGH MADDAnWAWnYEH
nHIGH YEHsNOONhPLACE OF SAJDAHhEMPTY CENTRE LOW STOPuHIGH STOPhROUNDED HIGH STOP WITH FILLED CENTRE
hSMALL LOW MEEMhLETTER DAL WITH INVERTED VoREH WITH INVERTED VaEXTENDED ARABIC-INDIC DIGIT ZERO(ONE
(TWO)HREE(FOUR)IVE(SIX)EVEN(EIGHT(NINEaARABIC LETTER SHEEN WITH DOT BELOWoDAD WITH DOT BELOW
oGHAIN WITH DOT BELOWhSIGN SINDHI AMPERSANDtPOSTPOSITION MENhLETTER HEH WITH INVERTED V
aSYRIAC END OF PARAGRAPHhSUPRALINEAR FULL STOPjBLINEAR FULL STOPjPRALINEAR COLONjBLINEAR COLON
hHORIZONTAL COLONhCOLON SKEWED LEFTuRIGHThSUPRALINEAR COLON SKEWED LEFTjBLINEAR COLON SKEWED RIGHT
hCONTRACTIONhHARKLEAN OBELUSqMETOBELUSqASTERISCUS=70FhABBREVIATION MARKhLETTER ALAPH
oSUPERSCRIPT ALAPHoBETHoGAMALt GARSHUNIoDALATHpOTLESS DALATH RISHoHEoWAWoZAINoHETHoTETHs GARSHUNI
oYUDHs HEoKAPHoLAMADHoMIMoNUNoSEMKATHoFINAL SEMKATHoEoPEoREVERSED PEoSADHEoQAPHoRISHoSHINoTAW
oPERSIAN BHETHwGHAMALwDHALATHhPTHAHA ABOVEoBELOWoDOTTEDhZQAPHA ABOVEoBELOWoDOTTEDhRBASA ABOVEnBELOW
hDOTTED ZLAMA HORIZONTALuANGULARhHBASA ABOVEnBELOWm-ESASA DOTTEDhESASA ABOVEnBELOWhRWAHA
hFEMININE DOThQUSHSHAYAhRUKKAKHAhTWO VERTICAL DOTS ABOVEzBELOWiHREE DOTS ABOVEsBELOW
hOBLIQUE LINE ABOVEuBELOWhMUSIChBARREKH=74DhLETTER SOGDIAN ZHAINwKHAPHwFE
aARABIC LETTER BEH WITH THREE DOTS HORIZONTALLY BELOWxDOT BELOW AND THREE DOTS ABOVE
xTHREE DOTS POINTING UPWARDS BELOW~PWARDS BELOW AND TWO DOTS ABOVEyWO DOTS BELOW AND DOT ABOVE
xINVERTED SMALL V BELOWxSMALL VoHAH WITH TWO DOTS ABOVEyHREE DOTS POINTING UPWARDS BELOW
oDAL WITH TWO DOTS VERTICALLY BELOW AND SMALL TAHxINVERTED SMALL V BELOWoREH WITH STROKE
oSEEN WITH FOUR DOTS ABOVEoAIN WITH TWO DOTS ABOVEyHREE DOTS POINTING DOWNWARDS ABOVE
yWO DOTS VERTICALLY ABOVEoFEH WITH TWO DOTS BELOWyHREE DOTS POINTING UPWARDS BELOW
oKEHEH WITH DOT ABOVEzTHREE DOTS ABOVE<POINTING UPWARDS BELOWoMEEM WITH DOT ABOVE(BELOW
oNOON WITH TWO DOTS BELOWySMALL TAH*VoLAM WITH BARoREH WITH TWO DOTS VERTICALLY ABOVExHAMZA ABOVE
oSEEN WITH TWO DOTS VERTICALLY ABOVEoHAH WITH SMALL ARABIC LETTER TAH BELOW~AH AND TWO DOTS
oSEEN WITH SMALL ARABIC LETTER TAH AND TWO DOTSoREH WITH SMALL ARABIC LETTER TAH AND TWO DOTS
oHAH WITH SMALL ARABIC LETTER TAH ABOVEoALEF WITH EXTENDED ARABIC-INDIC DIGIT TWO ABOVE
~C DIGIT THREE ABOVEoFARSI YEH WITH EXTENDED ARABIC-INDIC DIGIT TWO ABOVE~-INDIC DIGIT THREE ABOVE
~-INDIC DIGIT FOUR BELOWoWAW WITH EXTENDED ARABIC-INDIC DIGIT TWO ABOVE~ DIGIT THREE ABOVE
oYEH BARREE WITH EXTENDED ARABIC-INDIC DIGIT TWO ABOVE~C-INDIC DIGIT THREE ABOVE
oHAH WITH EXTENDED ARABIC-INDIC DIGIT FOUR BELOWoSEEN WITH EXTENDED ARABIC-INDIC DIGIT FOUR ABOVE
yINVERTED VoKAF WITH TWO DOTS ABOVEaTHAANA LETTER HAAoSHAVIYANIoNOONUoRAAoBAAoLHAVIYANIoKAAFUoALIFU
oVAAVUoMEEMUoFAAFUoDHAALUoTHAAoLAAMUoGAAFUpNAVIYANIoSEENUoDAVIYANIoZAVIYANIoTAVIYANIoYAAoPAVIYANI
oJAVIYANIoCHAVIYANIoTTAAoHHAAoKHAAoTHAALUoZAAoSHEENUpAADHUoDAADHUoTOoZOoAINUoGHAINUoQAAFUoWAAVU
hABAFILIiABAAFILIhIBIFILIhEEBEEFILIhUBUFILIhOOBOOFILIhEBEFILIiYBEYFILIhOBOFILIiABOAFILIhSUKUN
hLETTER NAA=7C0aNKO DIGIT ZEROkONEkTWOlHREEkFOURlIVEkSIXlEVENkEIGHTkNINEeLETTER AlEElIlElUlOOm
lDAGBASINNAlNlBAlPAlTAlJAlCHAlDAlRAmRAlSAlGBAlFAlKAlLAlNA WOLOSOlMAlNYAmAlHAlWAlYAlNYA WOLOSO
lJONA JAqCHAqRAeCOMBINING SHORT HIGH TONEuLOW TONEuRISING TONEoLONG DESCENDING TONEtHIGH TONE
tLOW TONEtRISING TONEoNASALIZATION MARKoDOUBLE DOT ABOVEeHIGH TONE APOSTROPHEeLOW TONE APOSTROPHE
eSYMBOL OO DENNENlGBAKURUNENeCOMMAeEXCLAMATION MARKeLAJANYALAN=7FDeDANTAYALANfOROME SIGNeTAMAN SIGN
aSAMARITAN LETTER ALAFrBITrGAMANrDALATrIYrBAArZENrITrTITrYUTrKAAFrLABATrMIMrNUNrSINGAATrINrFI
rTSAADIYrQUFrRISHrSHANrTAAFkMARK INr-ALAFpOCCLUSIONpDAGESHlODIFIER LETTER EPENTHETIC YUT
lARK EPENTHETIC YUTkVOWEL SIGN LONG EvEvOVERLONG AAvLONG AAvAAvOVERLONG AvLONG AvA
kMODIFIER LETTER SHORT AkVOWEL SIGN SHORT AvLONG UvUkMODIFIER LETTER IkVOWEL SIGN LONG IvIvOvSUKUN
kMARK NEQUDAA=830kPUNCTUATION NEQUDAAwAFSAAQxNGEDwBAUwATMAAUwSHIYYAALAAkABBREVIATION MARK
kPUNCTUATION MELODIC QITSAwZIQAAwQITSAwZAEFwTURUwARKAANUwSOF MASHFAATwANNAAU
=840aMANDAIC LETTER HALQApABqGqDqHpUSHENNApAZpITpATTqKSArqLqMqNqSpINpAPqSZqQqRqSHqTpDUSHENNApKADpAIN
iAFFRICATION MARKiVOCALIZATION MARKiGEMINATION MARK=85EiPUNCTUATION=860aSYRIAC LETTER MALAYALAM NGA
yJAyNYAyTTAyNNA!NAyBHAyRAyLLA!LAySSA=870aARABIC LETTER ALEF WITH ATTACHED FATHA.TOP RIGHT FATHA
yRIGHT MIDDLE STROKEyLEFT MIDDLE STROKEyATTACHED KASRA.BOTTOM RIGHT KASRA.ROUND DOT ABOVE
:IGHT ROUND DOT.LEFT ROUND DOT.ROUND DOT BELOWyDOT ABOVEyATTACHED TOP RIGHT FATHA AND DOT ABOVE
yRIGHT MIDDLE STROKE AND DOT ABOVEyATTACHED BOTTOM RIGHT KASRA AND DOT ABOVE
.TOP RIGHT FATHA AND LEFT RINGyRIGHT MIDDLE STROKE AND LEFT RING
yATTACHED BOTTOM RIGHT KASRA AND LEFT RING.RIGHT HAMZA.LEFT HAMZAhTATWEEL WITH OVERSTRUCK HAMZA+WAW
uTWO DOTS BELOWhLETTER THIN YEHhBASELINE ROUND DOThRAISED ROUND DOT
hLETTER NOON WITH INVERTED SMALL VoHAH WITH INVERTED SMALL V BELOWoTAH WITH DOT BELOW
xTHREE DOTS BELOWoKEHEH WITH TWO DOTS VERTICALLY BELOWhVERTICAL TAIL=890hPOUND MARK ABOVE
iIASTRE MARK ABOVE=898hSMALL HIGH WORD AL-JUZnLOW WORD ISHMAAMxMAALAwTASHEELhMADDA WAAJIB
hSUPERSCRIPT ALEF MOKHASSAShDOUBLED MADDAhHALF MADDA OVER MADDAhLETTER BEH WITH SMALL V BELOW
xHAMZA ABOVEoJEEM WITH TWO DOTS ABOVEoTAH WITH TWO DOTS ABOVE
oFEH WITH DOT BELOW AND THREE DOTS ABOVEoQAF WITH DOT BELOWoLAM WITH DOUBLE BAR
oMEEM WITH THREE DOTS ABOVEoYEH WITH TWO DOTS BELOW AND HAMZA ABOVE_DOT ABOVEoREH WITH LOOP
oWAW WITH DOT WITHINoROHINGYA YEHoLOW ALEFoDAL WITH THREE DOTS BELOWoSAD WITH THREE DOTS BELOW
oGAF WITH INVERTED STROKEoSTRAIGHT WAWoZAIN WITH INVERTED V ABOVEoAIN WITH THREE DOTS BELOW
oKAF WITH DOT BELOWoQAF WITH DOT BELOW AND NO DOTS ABOVEoBEH WITH SMALL MEEM ABOVE
oPEH WITH SMALL MEEM ABOVEoTEH WITH SMALL TEH ABOVEoREH WITH SMALL NOON ABOVE
oYEH WITH TWO DOTS BELOW AND SMALL NOON ABOVEoAFRICAN FEHwQAFwNOONoPEH WITH SMALL VoTEH WITH SMALL V
pTEH WITH SMALL VpCHEH WITH SMALL VoKEHEH WITH SMALL VoGHAIN WITH THREE DOTS ABOVE
oAFRICAN QAF WITH THREE DOTS ABOVEoJEEM WITH THREE DOTS ABOVE;BELOW
oLAM WITH SMALL ARABIC LETTER TAH ABOVEoGRAFhSMALL FARSI YEHnHIGH FARSI YEH
sYEH BARREE WITH TWO DOTS BELOWsWORD SAHsZAHhLARGE ROUND DOT ABOVExBELOWhSUKUN BELOW
hLARGE CIRCLE BELOWnROUND DOT INSIDE CIRCLE BELOWhSMALL LOW WAWnHIGH WORD AR-RUBsSADsAINsQAF
sNOON WITH KASRAnLOW NOON WITH KASRAnHIGH WORD ATH-THALATHAyS-SAJDAyN-NISFxSAKTAxQIFxWAQFA
sFOOTNOTE MARKERsSIGN SAFHAhDISPUTED END OF AYAHhTURNED DAMMA BELOWhCURLY FATHAnDAMMAnKASRAnFATHATAN
nDAMMATANnKASRATANhTONE ONE DOT ABOVEmTWO DOTS ABOVEmLOOP ABOVEmONE DOT BELOWmTWO DOTS BELOW
mLOOP BELOWhOPEN FATHATANmDAMMATANmKASRATANhSMALL HIGH WAWhFATHA WITH RINGsDOT ABOVE
hKASRA WITH DOT BELOWhLEFT ARROWHEAD ABOVEhRIGHT ARROWHEAD ABOVEhLEFT ARROWHEAD BELOW
hRIGHT ARROWHEAD BELOWhDOUBLE RIGHT ARROWHEAD ABOVE; WITH DOThRIGHT ARROWHEAD ABOVE WITH DOT
hDAMMA WITH DOThMARK SIDEWAYS NOON GHUNNAaDEVANAGARI SIGN INVERTED CANDRABINDUqCANDRABINDUqANUSVARA
qVISARGAlLETTER SHORT AsAtAsItIsUtUsVOCALIC R!LsCANDRA EsSHORT EsEsAIsCANDRA OsSHORT OsOsAUsKAtHAsGA
tHAsNGAsCAtHAsJAtHAsNYAsTTAuHAsDDAuHAsNNAsTAtHAsDAtHAsNAtNNAsPAtHAsBAtHAsMAsYAsRAtRAsLAtLAuLAsVAsSHA
tSAtAsHAlVOWEL SIGN OExOElSIGN NUKTAqAVAGRAHAlVOWEL SIGN AAwIxIwUxUwVOCALIC R+RwCANDRA EwSHORT EwE
wAIwCANDRA OwSHORT OwOwAUlSIGN VIRAMAlVOWEL SIGN PRISHTHAMATRA EwAWlOMlSTRESS SIGN UDATTAxANUDATTA
lGRAVE ACCENTlACUTE ACCENTlVOWEL SIGN CANDRA LONG EwUExUElLETTER QAsKHHAsGHHAsZAsDDDHAsRHAsFAsYYA
sVOCALIC RR!LLlVOWEL SIGN VOCALIC L+LlDANDAmOUBLE DANDAmIGIT ZEROrONErTWOsHREErFOURsIVErSIXsEVEN
rEIGHTrNINElABBREVIATION SIGNlSIGN HIGH SPACING DOTlLETTER CANDRA AsOEtOEsAWsUEtUEsMARWARI DDAsZHA
sHEAVY YAsGGAsJJAsGLOTTAL STOPsDDDAsBBAaBENGALI ANJIiSIGN CANDRABINDUnANUSVARAnVISARGA=985iLETTER A
qApIqIpUqUpVOCALIC RxL=98FpEpAI=993pOpAUpKAqHApGAqHApNGApCAqHApJAqHApNYApTTArHApDDArHApNNApTAqHApDA
qHApNA=9AApPAqHApBAqHApMApYApRA=9B2pLA=9B6pSHAqSAqApHA=9BCiSIGN NUKTAnAVAGRAHAiVOWEL SIGN AAtIuItUuU
tVOCALIC R(R=9C7tEtAI=9CBtOtAUiSIGN VIRAMAiLETTER KHANDA TA=9D7iAU LENGTH MARK=9DCiLETTER RRAqHA
=9DFpYYApVOCALIC RRxLLiVOWEL SIGN VOCALIC L(L=9E6iDIGIT ZEROoONEoTWOpHREEoFOURpIVEoSIXpEVENoEIGHT
oNINEiLETTER RA WITH MIDDLE DIAGONALxLOWER DIAGONALiRUPEE MARKoSIGNiCURRENCY NUMERATOR ONE&TWO(HREE
&FOUR&ONE LESS THAN THE DENOMINATORrDENOMINATOR SIXTEENiISSHARiGANDA MARKiLETTER VEDIC ANUSVARA
iABBREVIATION SIGNiSANDHI MARK=A01aGURMUKHI SIGN ADAK BINDIoBINDIoVISARGA=A05jLETTER ArAqIrIqUrU
=A0FqEEqAI=A13qOOqAUqKArHAqGArHAqNGAqCArHAqJArHAqNYAqTTAsHAqDDAsHAqNNAqTArHAqDArHAqNA=A2AqPArHAqBA
rHAqMAqYAqRA=A32qLArLA=A35qVAqSHA=A38rAqHA=A3CjSIGN NUKTA=A3EjVOWEL SIGN AAuIvIuUvU=A47uEEuAI=A4BuOO
uAUjSIGN VIRAMA=A51oUDAAT=A59jLETTER KHHAqGHHAqZAqRRA=A5EqFA=A66jDIGIT ZEROpONEpTWOqHREEpFOURqIVE
pSIXqEVENpEIGHTpNINEjTIPPIjADDAKjIRIjURAjEK ONKARjSIGN YAKASHjABBREVIATION SIGN
=A81cJARATI SIGN CANDRABINDUoANUSVARAoVISARGA=A85jLETTER ArAqIrIqUrUqVOCALIC RyLjVOWEL CANDRA E
=A8FjLETTER EqAIjVOWEL CANDRA O=A93jLETTER OqAUqKArHAqGArHAqNGAqCArHAqJArHAqNYAqTTAsHAqDDAsHAqNNAqTA
rHAqDArHAqNA=AAAqPArHAqBArHAqMAqYAqRA=AB2qLArLA=AB5qVAqSHArSArAqHA=ABCjSIGN NUKTAoAVAGRAHA
jVOWEL SIGN AAuIvIuUvUuVOCALIC R)RuCANDRA E=AC7uEuAIuCANDRA O=ACBuOuAUjSIGN VIRAMA=AD0jOM
=AE0jLETTER VOCALIC RRyLLjVOWEL SIGN VOCALIC L)L=AE6jDIGIT ZEROpONEpTWOqHREEpFOURqIVEpSIXqEVENpEIGHT
pNINEjABBREVIATION SIGNjRUPEE SIGN=AF9jLETTER ZHAjSIGN SUKUNpHADDAoMADDAHoTHREE-DOT NUKTA ABOVE
oCIRCLE NUKTA ABOVEoTWO-CIRCLE NUKTA ABOVE=B01aORIYA SIGN CANDRABINDUlANUSVARAlVISARGA=B05gLETTER A
oAnIoInUoUnVOCALIC RvL=B0FnEnAI=B13nOnAUnKAoHAnGAoHAnNGAnCAoHAnJAoHAnNYAnTTApHAnDDApHAnNNAnTAoHAnDA
oHAnNA=B2AnPAoHAnBAoHAnMAnYAnRA=B32nLAoLA=B35nVAnSHAoSAoAnHA=B3CgSIGN NUKTAlAVAGRAHAgVOWEL SIGN AArI
sIrUsUrVOCALIC R!R=B47rErAI=B4BrOrAUgSIGN VIRAMA=B55lOVERLINEgAI LENGTH MARKhU LENGTH MARK
=B5CgLETTER RRAoHA=B5FnYYAnVOCALIC RRvLLgVOWEL SIGN VOCALIC L!L=B66gDIGIT ZEROmONEmTWOnHREEmFOURnIVE
mSIXnEVENmEIGHTmNINEgISSHARgLETTER WAgFRACTION ONE QUARTERtHALFpTHREE QUARTERSpONE SIXTEENTHtEIGHTH
pTHREE SIXTEENTHS=B82aTAMIL SIGN ANUSVARAlVISARGA=B85gLETTER AoAnIoInUoU=B8EnEoEnAI=B92nOoOnAUnKA
=B99nNGAnCA=B9CnJA=B9EnNYAnTTA=BA3nNNAnTA=BA8nNAoNNAnPA=BAEnMAnYAnRAoRAnLAoLApLAnVAnSHAoSAoAnHA
=BBEgVOWEL SIGN AArIsIrUsU=BC6rEsErAI=BCArOsOrAUgSIGN VIRAMA=BD0gOM=BD7gAU LENGTH MARK
=BE6gDIGIT ZEROmONEmTWOnHREEmFOURnIVEmSIXnEVENmEIGHTmNINEgNUMBER TENnONE HUNDREDrTHOUSANDgDAY SIGN
gMONTH SIGNgYEAR SIGNgDEBIT SIGNgCREDIT SIGNgAS ABOVE SIGNgRUPEE SIGNgNUMBER SIGN
=C00bELUGU SIGN COMBINING CANDRABINDU ABOVEnANDRABINDUmANUSVARAmVISARGAmCOMBINING ANUSVARA ABOVE
hLETTER ApAoIpIoUpUoVOCALIC RwL=C0EoEpEoAI=C12oOpOoAUoKApHAoGApHAoNGAoCApHAoJApHAoNYAoTTAqHAoDDAqHA
oNNAoTApHAoDApHAoNA=C2AoPApHAoBApHAoMAoYAoRApRAoLApLAqLAoVAoSHApSApAoHA=C3ChSIGN NUKTAmAVAGRAHA
hVOWEL SIGN AAsItIsUtUsVOCALIC R&R=C46sEtEsAI=C4AsOtOsAUhSIGN VIRAMA=C55hLENGTH MARKhAI LENGTH MARK
=C58hLETTER TSAoDZAoRRRA=C5DoNAKAARA POLLU=C60oVOCALIC RRwLLhVOWEL SIGN VOCALIC L&L=C66hDIGIT ZERO
nONEnTWOoHREEnFOURoIVEnSIXoEVENnEIGHTnNINE=C77hSIGN SIDDHAM
hFRACTION DIGIT ZERO FOR ODD POWERS OF FOURwONE FOR ODD POWERS OF FOURwTWO FOR ODD POWERS OF FOUR
xHREE FOR ODD POWERS OF FOURwONE FOR EVEN POWERS OF FOURwTWO FOR EVEN POWERS OF FOUR
xHREE FOR EVEN POWERS OF FOURhSIGN TUUMUaKANNADA SIGN SPACING CANDRABINDUnCANDRABINDUnANUSVARA
nVISARGAnSIDDHAMiLETTER AqApIqIpUqUpVOCALIC RxL=C8EpEqEpAI=C92pOqOpAUpKAqHApGAqHApNGApCAqHApJAqHA
pNYApTTArHApDDArHApNNApTAqHApDAqHApNA=CAApPAqHApBAqHApMApYApRAqRApLAqLA=CB5pVApSHAqSAqApHA
=CBCiSIGN NUKTAnAVAGRAHAiVOWEL SIGN AAtIuItUuUtVOCALIC R(R=CC6tEuEtAI=CCAtOuOtAUiSIGN VIRAMA
=CD5iLENGTH MARKiAI LENGTH MARK=CDDiLETTER NAKAARA POLLUpFA=CE0pVOCALIC RRxLLiVOWEL SIGN VOCALIC L(L
=CE6iDIGIT ZEROoONEoTWOpHREEoFOURpIVEoSIXpEVENoEIGHToNINE=CF1iSIGN JIHVAMULIYAnUPADHMANIYA
=D00aMALAYALAM SIGN COMBINING ANUSVARA ABOVEqANDRABINDUpANUSVARApVISARGAkLETTER VEDIC ANUSVARArAsArI
sIrUsUrVOCALIC RzL=D0ErEsErAI=D12rOsOrAUrKAsHArGAsHArNGArCAsHArJAsHArNYArTTAtHArDDAtHArNNArTAsHArDA
sHArNAsNNArPAsHArBAsHArMArYArRAsRArLAsLAtLArVArSHAsSAsArHArTTTAkSIGN VERTICAL BAR VIRAMA
pCIRCULAR VIRAMApAVAGRAHAkVOWEL SIGN AAvIwIvUwUvVOCALIC R*R=D46vEwEvAI=D4AvOwOvAUkSIGN VIRAMA
kLETTER DOT REPHkSIGN PARA=D54kLETTER CHILLU MyYyLLLkAU LENGTH MARK
kFRACTION ONE ONE-HUNDRED-AND-SIXTIETHxFORTIETHtTHREE EIGHTIETHStONE TWENTIETHyENTHtTHREE TWENTIETHS
tONE FIFTHkLETTER ARCHAIC IIrVOCALIC RRzLLkVOWEL SIGN VOCALIC L*L=D66kDIGIT ZEROqONEqTWOrHREEqFOUR
rIVEqSIXrEVENqEIGHTqNINEkNUMBER TENrONE HUNDREDvTHOUSANDkFRACTION ONE QUARTERxHALFtTHREE QUARTERS
tONE SIXTEENTHxEIGHTHtTHREE SIXTEENTHSkDATE MARKkLETTER CHILLU NNzyRRyLzLyK
=D81aSINHALA SIGN CANDRABINDUnANUSVARAYAnVISARGAYA=D85iLETTER AYANNAqAYANNAqEYANNArEYANNApIYANNA
qIYANNApUYANNAqUYANNApIRUYANNAsUYANNAqLUYANNAsUYANNApEYANNAqEYANNApAIYANNApOYANNAqOYANNApAUYANNA
=D9AqLPAPRAANA KAYANNApMAHAAPRAANA KAYANNApALPAPRAANA GAYANNApMAHAAPRAANA GAYANNApKANTAJA NAASIKYAYA
pSANYAKA GAYANNApALPAPRAANA CAYANNApMAHAAPRAANA CAYANNApALPAPRAANA JAYANNApMAHAAPRAANA JAYANNA
pTAALUJA NAASIKYAYAxSANYOOGA NAAKSIKYAYApSANYAKA JAYANNApALPAPRAANA TTAYANNApMAHAAPRAANA TTAYANNA
pALPAPRAANA DDAYANNApMAHAAPRAANA DDAYANNAqUURDHAJA NAYANNApSANYAKA DDAYANNApALPAPRAANA TAYANNA
pMAHAAPRAANA TAYANNApALPAPRAANA DAYANNApMAHAAPRAANA DAYANNApDANTAJA NAYANNA=DB3pSANYAKA DAYANNA
pALPAPRAANA PAYANNApMAHAAPRAANA PAYANNApALPAPRAANA BAYANNApMAHAAPRAANA BAYANNArYANNApAMBA BAYANNA
pYAYANNApRAYANNA=DBDpDANTAJA LAYANNA=DC0pVAYANNApTAALUJA SAYANNApMUURDHAJA SAYANNApDANTAJA SAYANNA
pHAYANNApMUURDHAJA LAYANNApFAYANNA=DCAiSIGN AL-LAKUNA=DCFiVOWEL SIGN AELA-PILLAtKETTI AEDA-PILLA
tDIGA AEDA-PILLAtKETTI IS-PILLAtDIGA IS-PILLAtKETTI PAA-PILLA=DD6tDIGA PAA-PILLA=DD8tGAETTA-PILLA
tKOMBUVAtDIGA KOMBUVAtKOMBU DEKAyVA HAA AELA-PILLA+DIGA AELA-PILLA+GAYANUKITTAtGAYANUKITTA
=DE6iLITH DIGIT ZEROtONEtTWOuHREEtFOURuIVEtSIXuEVENtEIGHTtNINE=DF2iVOWEL SIGN DIGA GAETTA-PILLA
!YANUKITTAiPUNCTUATION KUNDDALIYA=E01aTHAI CHARACTER KO KAIqHO KHAIvUATvWAIvONtRAKHANGpNGO NGU
pCHO CHANvINGvANGpSO SOpCHO CHOEpYO YINGpDO CHADApTO PATAKqHO THANtNANGMONTHOtPHUTHAOpNO NENpDO DEK
pTO TAOqHO THUNGvAHANvONGpNO NUpBO BAIMAIpPO PLAqHO PHUNGpFO FApPHO PHANpFO FANpPHO SAMPHAOpMO MA
pYO YAKpRO RUAqUpLO LINGqUpWO WAENpSO SALAsRUSIsSUApHO HIPpLO CHULApO ANGpHO NOKHUKpPAIYANNOIpSARA A
pMAI HAN-AKATpSARA AAvMuIvIuUEwEvvUpPHINTHU=E3FgURRENCY SYMBOL BAHTgHARACTER SARA EuAEuOuAI MAIMUAN
&ALAIpLAKKHANGYAOpMAIYAMOKsTAIKHUs EKtTHOuRItCHATTAWApTHANTHAKHATpNIKHAHITpYAMAKKANpFONGMAN
fDIGIT ZEROlONElTWOmHREElFOURmIVElSIXmEVENlEIGHTlNINEfCHARACTER ANGKHANKHUpKHOMUT=E81aLAO LETTER KO
mHO SUNG=E84pTAM=E86lPALI GHAlNGOlCOlPALI CHAlSO TAM=E8ClPALI JHAlNYOlPALI NYAqTTAsHAqDDAsHAqNNAlDO
lTOmHO SUNGpTAMlPALI DHAlNOlBOlPOmHO SUNGlFO TAMlPHO TAMlFO SUNGlPALI BHAlMOlYOlLO LING=EA5pOOT
=EA7lWOlSANSKRIT SHAvSAmO SUNGlHO SUNGlPALI LLAlOlHO TAMeELLIPSISeVOWEL SIGN ApMAI KANpAAqMpIqIpYqY
pUqUeSIGN PALI VIRAMAeVOWEL SIGN MAI KONeSEMIVOWEL SIGN LOtNYO=EC0eVOWEL SIGN EqIpOpAYqI=EC6eKO LA
=EC8eTONE MAI EKnTHOoInCATAWAeCANCELLATION MARKeNIGGAHITA=ED0eDIGIT ZEROkONEkTWOlHREEkFOURlIVEkSIX
lEVENkEIGHTkNINE=EDCeHO NOhMOeLETTER KHMU GOqNYO=F00aTIBETAN SYLLABLE OM
iMARK GTER YIG MGO TRUNCATED A!-UM RNAM BCAD MA*GTER TSHEG MAnINITIAL YIG MGO MDUN MA
nCLOSING YIG MGO SGAB MAoARET YIG MGO PHUR SHAD MAnYIG MGO TSHEG SHAD MAnSBRUL SHADnBSKUR YIG MGO
oKA- SHOG YIG MGOnINTERSYLLABIC TSHEGnDELIMITER TSHEG BSTARnSHADnNYIS SHADnTSHEG SHAD
nNYIS TSHEG SHADnRIN CHEN SPUNGS SHADoGYA GRAM SHADnCARET -DZUD RTAGS ME LONG CANnGTER TSHEG
iLOGOTYPE SIGN CHAD RTAGSwLHAG RTAGSiASTROLOGICAL SIGN SGRA GCAN -CHAR RTAGS!-KHYUD PA!SDONG TSHUGS
iSIGN RDEL DKAR GCIGyNYISySUMsNAG GCIGxNYISsDKAR RDEL NAGiDIGIT ZEROoONEoTWOpHREEoFOURpIVEoSIXpEVEN
oEIGHToNINEoHALF ONEtTWOuHREEtFOURuIVEtSIXuEVENtEIGHTtNINEtZEROiMARK BSDUS RTAGSnNGAS BZUNG NYI ZLA
nCARET -DZUD RTAGS BZHI MIG CANnNGAS BZUNG SGOR RTAGSnCHE MGOnTSA -PHRUnGUG RTAGS GYONzAS
nANG KHANG GYONzASiSIGN YAR TSHESnMAR TSHESiLETTER KAqHApGAqHApNGApCAqHApJA=F49pNYApTTArHApDDArHA
pNNApTAqHApDAqHApNApPAqHApBAqHApMApTSArHApDZArHApWApZHAqAp-ApYApRApLApSHAqSAqApHApApKSSA
pFIXED-FORM RApKKApRRA=F71iVOWEL SIGN AAtIuItUuUtVOCALIC R(R&L(LtEuEtOuOiSIGN RJES SU NGA RO
oNAM BCADiVOWEL SIGN REVERSED I)IiSIGN NYI ZLA NAA DAnSNA LDANiMARK HALANTAnPALUTAiSIGN LCI RTAGS
nYANG RTAGSnLCE TSA CANnMCHU CANnGRU CAN RGYINGSrMED RGYINGSnINVERTED MCHU CAN
jUBJOINED SIGN LCE TSA CANxMCHU CANxINVERTED MCHU CANsLETTER KA!HAzGA!HAzNGAzCA!HAzJA=F99zNYAzTTA&HA
zDDA&HAzNNAzTA!HAzDA!HAzNAzPA!HAzBA!HAzMAzTSA&HAzDZA&HAzWAzZHA!Az-AzYAzRAzLAzSHA!SA!AzHAzAzKSSA
zFIXED-FORM WA<YA<RA=FBEiKU RU KHAr BZHI MIG CANiCANTILLATION SIGN HEAVY BEAT!LIGHT BEAT!CANG TE-U
!SBUB -CHALiSYMBOL DRIL BUpRDO RJEpPADMA GDANpRDO RJE RGYA GRAMpPHUR PApNOR BUv NYIS -KHYIL
wGSUM -KHYILwBZHI -KHYIL=FCEjIGN RDEL NAG RDEL DKARwGSUMiMARK BSKA- SHOG GI MGO RGYAN
nMNYAM YIG GI MGO RGYANnNYIS TSHEGnINITIAL BRDA RNYING YIG MGO MDUN MA
nCLOSING BRDA RNYING YIG MGO SGAB MAaRIGHT-FACING SVASTI SIGNaLEFT-FACING SVASTI SIGN
aRIGHT-FACING SVASTI SIGN WITH DOTSaLEFT-FACING SVASTI SIGN WITH DOTS
aTIBETAN MARK LEADING MCHAN RTAGSnTRAILING MCHAN RTAGS=1000aMYANMAR LETTER KAqHApGAqHApNGApCAqHApJA
qHApNYAqNYApTTArHApDDArHApNNApTAqHApDAqHApNApPAqHApBAqHApMApYApRApLApWApSApHApLLApApSHAN ApIqIpUqUpE
pMON EpOpAUiVOWEL SIGN TALL AAtAAtIuItUuUtEtAItMON IIxOtE ABOVEiSIGN ANUSVARAnDOT BELOWnVISARGApRAMA
nASATiCONSONANT SIGN MEDIAL YA*RA*WA*HAiLETTER GREAT SAiDIGIT ZEROoONEoTWOpHREEoFOURpIVEoSIXpEVEN
oEIGHToNINEiSIGN LITTLE SECTIONnSECTIONjYMBOL LOCATIVEpCOMPLETEDpAFOREMENTIONEDpGENITIVEiLETTER SHA
qSApVOCALIC RyRxLyLiVOWEL SIGN VOCALIC R(R&L(LiLETTER MON NGAtJHAtBBAvEiCONSONANT SIGN MON MEDIAL NA
:MA:LAiLETTER SGAW KAREN SHAiVOWEL SIGN SGAW KAREN EUiTONE MARK SGAW KAREN HATHI)KE PHO
iLETTER WESTERN PWO KAREN THA.PWAiVOWEL SIGN WESTERN PWO KAREN EU>UEiSIGN WESTERN PWO KAREN TONE-1<2
<3<4<5iLETTER EASTERN PWO KAREN NNA.YWA.GHWAiVOWEL SIGN GEBA KAREN ItKAYAH OEzUzEEiLETTER SHAN KAvHA
uGAuCAuZAuNYAuDAuNAuPHAuFAuBAuTHAuHAiCONSONANT SIGN SHAN MEDIAL WAiVOWEL SIGN SHAN AAyEz ABOVE
yFINAL YiSIGN SHAN TONE-2x3x5x6sCOUNCIL TONE-2+3!EMPHATIC TONEiLETTER RUMAI PALAUNG FA
iSIGN RUMAI PALAUNG TONE-5jHAN DIGIT ZEROtONEtTWOuHREEtFOURuIVEtSIXuEVENtEIGHTtNINE
jIGN KHAMTI TONE-1z3iVOWEL SIGN AITON A!IiSYMBOL SHAN ONEuEXCLAMATIONaGEORGIAN CAPITAL LETTER ANyBAN
yGANyDONyENyVINyZENyTANyINyKANyLASyMANyNARyONyPARyZHARyRAEySANyTARyUNyPHARyKHARyGHANyQARySHINyCHIN
zANyJILyCILzHARyXANyJHANyHAEzEzIEyWEyHARzOE=10C7yYN=10CDyAEN=10D0jLETTER ANqBANqGANqDONqENqVINqZEN
qTANqINqKANqLASqMANqNARqONqPARqZHARqRAEqSANqTARqUNqPHARqKHARqGHANqQARqSHINqCHINrANqJILqCILrHARqXAN
qJHANqHAErErIEqWEqHARrOEqFIqYNqELIFIqTURNED GANqAINjPARAGRAPH SEPARATORaMODIFIER LETTER GEORGIAN NAR
aGEORGIAN LETTER AENqHARD SIGNqLABIAL SIGNaHANGUL CHOSEONG KIYEOKqSSANGKIYEOKqNIEUNqTIKEUT
qSSANGTIKEUTqRIEULqMIEUMqPIEUPqSSANGPIEUPrIOSrSANGSIOSqIEUNGqCIEUCqSSANGCIEUCqCHIEUCHqKHIEUKH
qTHIEUTHqPHIEUPHqHIEUHqNIEUN-KIYEOKqSSANGNIEUNqNIEUN-TIKEUTwPIEUPqTIKEUT-KIYEOKqRIEUL-NIEUN
qSSANGRIEULqRIEUL-HIEUHqKAPYEOUNRIEULqMIEUM-PIEUPqKAPYEOUNMIEUMqPIEUP-KIYEOKwNIEUNwTIKEUTwSIOS
!-KIYEOK&TIKEUT&PIEUPxSANGSIOSxIOS-CIEUCwCIEUCxHIEUCHwTHIEUTHwPHIEUPHqKAPYEOUNPIEUPySSANGPIEUP
qSIOS-KIYEOKvNIEUNvTIKEUTvRIEULvMIEUMvPIEUP!-KIYEOKvSSANGSIOSvIEUNGvCIEUCwHIEUCHvKHIEUKHvTHIEUTH
vPHIEUPHvHIEUHqCHITUEUMSIOSzSANGSIOSrEONGCHIEUMSIOS(SANGSIOSqPANSIOSqIEUNG-KIYEOKwTIKEUTwMIEUMwPIEUP
wSIOSwPANSIOSqSSANGIEUNGqIEUNG-CIEUCxHIEUCHwTHIEUTHwPHIEUPHqYESIEUNGqCIEUC-IEUNGrHITUEUMCIEUC
ySSANGCIEUCrEONGCHIEUMCIEUC&SSANGCIEUCrHIEUCH-KHIEUKHyHIEUHtTUEUMCHIEUCHrEONGCHIEUMCHIEUCH
qPHIEUPH-PIEUPqKAPYEOUNPHIEUPHqSSANGHIEUHqYEORINHIEUHqKIYEOK-TIKEUTqNIEUN-SIOSwCIEUCwHIEUH
qTIKEUT-RIEULqFILLERhJUNGSEONG FILLERrAsErYAtErEOsrYEOtrOrWAtErOErYOrUrWEOtsIrYUrEUrYIrIrA-OtUrYA-O
uYOrEO-OuUuEUrYEO-OvUrO-EOutYEtOtUrYO-YAwEvEOuOuIrU-AuEtEO-EUtYEtUrYU-AuEOvuYEOwuUuIrEU-UuEUrYI-U
rI-AtYAtOtUtEUtARAEArARAEAw-EOxUxIrSSANGARAEArA-EUrYA-UsEO-YArO-YAvEiONGSEONG KIYEOKrSSANGKIYEOK
rKIYEOK-SIOSrNIEUNw-CIEUCxHIEUHrTIKEUTrRIEULw-KIYEOKxMIEUMxPIEUPxSIOSxTHIEUTHxPHIEUPHxHIEUHrMIEUM
rPIEUPw-SIOSrSIOSsSANGSIOSrIEUNGrCIEUCsHIEUCHrKHIEUKHrTHIEUTHrPHIEUPHrHIEUHrKIYEOK-RIEULySIOS-KIYEOK
rNIEUN-KIYEOKxTIKEUTxSIOSxPANSIOSxTHIEUTHrTIKEUT-KIYEOKyRIEULrRIEUL-KIYEOK-SIOSxNIEUNxTIKEUT)-HIEUH
rSSANGRIEULrRIEUL-MIEUM-KIYEOK)SIOSxPIEUP-SIOS)HIEUHxKAPYEOUNPIEUPxSSANGSIOSxPANSIOSxKHIEUKH
xYEORINHIEUHrMIEUM-KIYEOKxRIEULxPIEUPxSIOSySANGSIOSxPANSIOSxCHIEUCHxHIEUHrKAPYEOUNMIEUMrPIEUP-RIEUL
xPHIEUPHxHIEUHrKAPYEOUNPIEUPrSIOS-KIYEOKwTIKEUTwRIEULwPIEUPrPANSIOSrIEUNG-KIYEOKxSSANGKIYEOK
rSSANGIEUNGrIEUNG-KHIEUKHrYESIEUNGz-SIOS!PANSIOSrPHIEUPH-PIEUPrKAPYEOUNPHIEUPHrHIEUH-NIEUNxRIEUL
xMIEUMxPIEUPrYEORINHIEUHrKIYEOK-NIEUNyPIEUPyCHIEUCHyKHIEUKHyHIEUHrSSANGNIEUNaETHIOPIC SYLLABLE HAtU
tItAAtEEutOuAsLAtUtItAAtEEutOtWAsHHAuUuIuAAuEEvuOuWAsMAtUtItAAtEEutOtWAsSZAuUuIuAAuEEvuOuWAsRAtUtI
tAAtEEutOtWAsSAtUtItAAtEEutOtWAtHAuUuIuAAuEEvuOuWAsQAtUtItAAtEEutOuAtWA=124AuIuAAuEEv=1250tHAuUuIuAA
uEEvuO=1258uWA=125AvIvAAvEEw=1260sBAtUtItAAtEEutOtWAsVAtUtItAAtEEutOtWAsTAtUtItAAtEEutOtWAsCAtUtItAA
tEEutOtWAsXAtUtItAAtEEutOuAtWA=128AuIuAAuEEv=1290sNAtUtItAAtEEutOtWAtYAuUuIuAAuEEvuOuWAsGLOTTAL A!U
!I!AA!EE&!O!WAsKAtUtItAAtEEutOuAtWA=12B2uIuAAuEEv=12B8tXAuUuIuAAuEEvuO=12C0uWA=12C2vIvAAvEEw=12C8sWA
tUtItAAtEEutOuAsPHARYNGEAL A)U)I)AA)EE*)O=12D8sZAtUtItAAtEEutOtWAtHAuUuIuAAuEEvuOuWAsYAtUtItAAtEEutO
uAsDAtUtItAAtEEutOtWAtDAuUuIuAAuEEvuOuWAsJAtUtItAAtEEutOtWAsGAtUtItAAtEEutOuAtWA=1312uIuAAuEEv
=1318tGAuUuIuAAuEEvuOuWAAsTHAuUuIuAAuEEvuOuWAsCHAuUuIuAAuEEvuOuWAsPHAuUuIuAAuEEvuOuWAsTSAuUuIuAAuEEv
uOuWAtZAuUuIuAAuEEvuOvAsFAtUtItAAtEEutOtWAsPAtUtItAAtEEutOtWAsRYAsMYAsFYA
=135DjCOMBINING GEMINATION AND VOWEL LENGTH MARKtVOWEL LENGTH MARKtGEMINATION MARKjSECTION MARK
jWORDSPACEjFULL STOPjCOMMAjSEMICOLONjCOLONjPREFACE COLONjQUESTION MARKjPARAGRAPH SEPARATORjDIGIT ONE
pTWOqHREEpFOURqIVEpSIXqEVENpEIGHTpNINEjNUMBER TENrWENTYrHIRTYqFORTYrIFTYqSIXTYrEVENTYqEIGHTYqNINETY
qHUNDREDqTEN THOUSAND=1380jSYLLABLE SEBATBEIT MWAsMWIuEEvsSEBATBEIT BWAsBWIuEEvsSEBATBEIT FWAsFWIuEE
vsSEBATBEIT PWAsPWIuEEvjTONAL MARK YIZETuDERETuRIKRIKuSHORT RIKRIKuDIFATuKENATuCHIRETuHIDET
uDERET-HIDETuKURT=13A0aCHEROKEE LETTER AqEqIqOqUqVqGAqKAqGErIrOrUrVqHArErIrOrUrVqLArErIrOrUrVqMArErI
rOrUqNAqHNAqNAHrErIrOrUrVqQUAsEsIsOsUsVqSArrErIrOrUrVqDAqTAqDEqTEqDIqTIqDOrUrVrLAqTLAsEsIsOsUsVrSAsE
sIsOsUsVqWArErIrOrUrVqYArErIrOrUrVqMV=13F8jSMALL LETTER YExIxOxUxVwMV=1400bANADIAN SYLLABICS HYPHEN
tEtAAItIuItOuOtY-CREE OOtCARRIER EE&ItAuAtWEvST-CREE WEuIuEST-CREE WIuIIuEST-CREE WIIuOuEST-CREE WO
uOOuEST-CREE WOOtNASKAPI WOOtWAuEST-CREE WAuAAuEST-CREE WAAtNASKAPI WAAtAItY-CREE WtGLOTTAL STOP
tFINAL ACUTEzGRAVEzBOTTOM HALF RINGzTOP HALF RINGzRIGHT HALF RING&NGzDOUBLE ACUTE
,SHORT VERTICAL STROKESzMIDDLE DOTzSHORT HORIZONTAL STROKEzPLUSzDOWN TACKtENtINtONtANtPEuAAIuIvIuOvO
tY-CREE POOtCARRIER HEE(ItPAvAuWEtWEST-CREE PWEtPWItWEST-CREE PWItPWIItWEST-CREE PWIItPWO
tWEST-CREE PWOtPWOOtWEST-CREE PWOOtPWAtWEST-CREE PWAtPWAAtWEST-CREE PWAAtY-CREE PWAAtPtWEST-CREE P
tCARRIER HtTEuAAIuIvIuOvOtY-CREE TOOtCARRIER DEE(ItTAvAuWEtWEST-CREE TWEtTWItWEST-CREE TWItTWII
tWEST-CREE TWIItTWOtWEST-CREE TWOtTWOOtWEST-CREE TWOOtTWAtWEST-CREE TWAtTWAAtWEST-CREE TWAA
tNASKAPI TWAAtTuTEvIvOvAtKEuAAIuIvIuOvOtY-CREE KOOtKAvAuWEtWEST-CREE KWEtKWItWEST-CREE KWItKWII
tWEST-CREE KWIItKWOtWEST-CREE KWOtKWOOtWEST-CREE KWOOtKWAtWEST-CREE KWAtKWAAtWEST-CREE KWAA
tNASKAPI KWAAtKuWtSOUTH-SLAVEY KEH.IH.OH.AHtCEuAAIuIvIuOvOtY-CREE COOtCAvAuWEtWEST-CREE CWEtCWI
tWEST-CREE CWItCWIItWEST-CREE CWIItCWOtWEST-CREE CWOtCWOOtWEST-CREE CWOOtCWAtWEST-CREE CWAtCWAA
tWEST-CREE CWAAtNASKAPI CWAAtCtSAYISI THtMEuAAIuIvIuOvOtY-CREE MOOtMAvAuWEtWEST-CREE MWEtMWI
tWEST-CREE MWItMWIItWEST-CREE MWIItMWOtWEST-CREE MWOtMWOOtWEST-CREE MWOOtMWAtWEST-CREE MWAtMWAA
tWEST-CREE MWAAtNASKAPI MWAAtMtWEST-CREE MtMHtATHAPASCAN MtSAYISI MtNEuAAIuIvIuOvOtY-CREE NOOtNAvA
uWEtWEST-CREE NWEtNWAtWEST-CREE NWAtNWAAtWEST-CREE NWAAtNASKAPI NWAAutCARRIER NGtNHtLEuAAIuIvIuOvO
tY-CREE LOOtLAvAuWEtWEST-CREE LWEtLWItWEST-CREE LWItLWIItWEST-CREE LWIItLWOtWEST-CREE LWOtLWOO
tWEST-CREE LWOOtLWAtWEST-CREE LWAtLWAAtWEST-CREE LWAAtLtWEST-CREE LtMEDIAL LtSEuAAIuIvIuOvO
tY-CREE SOOtSAvAuWEtWEST-CREE SWEtSWItWEST-CREE SWItSWIItWEST-CREE SWIItSWOtWEST-CREE SWOtSWOO
tWEST-CREE SWOOtSWAtWEST-CREE SWAtSWAAtWEST-CREE SWAAtNASKAPI SWAAtStATHAPASCAN StSWtBLACKFOOT S
tMOOSE-CREE SKtNASKAPI SKW(-W(PWA(TWA(KWA(CWAtSHEvIwIvOwOvAwAvWEtWEST-CREE SHWEtSHWItWEST-CREE SHWI
tSHWIItWEST-CREE SHWIItSHWOtWEST-CREE SHWOtSHWOOtWEST-CREE SHWOOtSHWAtWEST-CREE SHWAtSHWAA
tWEST-CREE SHWAAtSHtYEuAAIuIvIuOvOu-CREE YOOuAvAuWEtWEST-CREE YWEtYWItWEST-CREE YWItYWII
tWEST-CREE YWIItYWOtWEST-CREE YWOtYWOOtWEST-CREE YWOOtYWAtWEST-CREE YWAtYWAAtWEST-CREE YWAA
tNASKAPI YWAAtYtBIBLE-CREE YtWEST-CREE YtSAYISI YItREu-CREE REtWEST-CREE LEtRAAIuIvIuOvO
tWEST-CREE LOtRAvAtWEST-CREE LAtRWAAtWEST-CREE RWAAtRtWEST-CREE RtMEDIAL RtFEuAAIuIvIuOvOuAvAuWAA
tWEST-CREE FWAAtFtTHEtN-CREE THEtTHItN-CREE THItTHIItN-CREE THIItTHOwOvAwAvWAAtWEST-CREE THWAAtTH
uTHEwIwOwAwuYEvIvOvAtNUNAVIK HE(I)I(O)O(A)A(yUT HtHKtQAAIuIvIuOvOuAvAutTLHEwIwOwAtWEST-CREE RE*I*O*A
tNGAAIvIwIvOwOvAwAvuNGtSAYISI SHE(I(O(AtWOODS-CREE THE,I,O,A,tLHIwIvOwOvAwAvtTH-CREE THE)I*I)O*O)A*A
)tAIVILIK BtBLACKFOOT E)I)O)A)WE*I*O*A)NE*I*O*A)KE*I*O*AtSAYISI HE&I&O&AtCARRIER GHU)O)E*E)I)A&RU(O
(E)E(I(A&WU(O(E)E(I(A&HWU)O)E*E)I)A&THU)O)E*E)I)A(TU)O)E*E)I)A&PU(O(E)E(I(A(&GU(O(E)E(I(A&KHU)O)E*E
)I)A(KU)O)E*E)I)A)&NU(O(E)E(I(A&MU(O(E)E(I(A&YU(O(E)E(I(A&JUtSAYISI JUtCARRIER JO(E)E(ItSAYISI JI
tCARRIER JA(JU)O)E*E)I)A&LU(O(E)E(I(A&DLU)O)E*E)I)A&LHU)O)E*E)I)A&TLHU*O*E+E*I*A)U)O)E*E)I)A&ZU(O(E
)E(I(A(&INITIAL Z&DZU)O)E*E)I)A&SU(O(E)E(I(A(HU)O)E*E)I)A)&TSU)O)E*E)I)A&CHU)O)E*E)I)A&TTSU*O*E+E*I
*AuHI SIGNtFULL STOPtQAItNGAIuNGIxIwOxOwAxAtWOODS-CREE THWEE.I:I.O:O.A:A*FINAL THtBLACKFOOT W
aOGHAM SPACE MARKgLETTER BEITHnLUISnFEARNnSAILnNIONnUATHnDAIRnTINNEnCOLLoEIRTnMUINnGORTnNGEADAL
nSTRAIFnRUISnAILMnONNnURnEADHADHnIODHADHnEABHADHnORnUILLEANNnIFINnEAMHANCHOLLnPEITHgFEATHER MARK
gREVERSED FEATHER MARK=16A0aRUNIC LETTER FEHU FEOH FE FnVnURUZ UR UnYRonWnTHURISAZ THURS THORNnETH
nANSUZ AnOS OnAC AoESCnLONG-BRANCH-OSS OnSHORT-TWIG-OSS OnOoEoNnRAIDO RAD REID RnKAUNAnCENnKAUN KnG
nENGnGEBO GYFU GoARnWUNJO WYNN WnHAGLAZ HpEGL HnLONG-BRANCH-HAGALL HnSHORT-TWIG-HAGALL H
nNAUDIZ NYD NAUD NnSHORT-TWIG-NAUD NnDOTTED-NnISAZ IS ISS InEnJERAN JnGERnLONG-BRANCH-AR AE
nSHORT-TWIG-AR AnIWAZ EOHnPERTHO PEORTH PnALGIZ EOLHXnSOWILO SoIGEL LONG-BRANCH-SOL S
oHORT-TWIG-SOL SnCnZnTIWAZ TIR TYR TnSHORT-TWIG-TYR TnDnBERKANAN BEORC BJARKAN B
nSHORT-TWIG-BJARKAN BnDOTTED-PnOPEN-PnEHWAZ EH EnMANNAZ MAN MnLONG-BRANCH-MADR MnSHORT-TWIG-MADR M
nLAUKAZ LAGU LOGR LnDOTTED-LnINGWAZqnDAGAZ DAEG DnOTHALAN ETHEL OnEARnIORnCWEORTHoALCoEALCnSTAN
nLONG-BRANCH-YRnSHORT-TWIG-YRnICELANDIC-YRnQnXgSINGLE PUNCTUATIONgMULTIPLE PUNCTUATION
gCROSS PUNCTUATIONgARLAUG SYMBOLgTVIMADUR SYMBOLgBELGTHOR SYMBOLgLETTER KnSHnOOnFRANKS CASKET OS&IS
&EH&AC(ESC=1700aTAGALOG LETTER ApIpUpKApGApNGApTApDApNApPApBApMApYApRApLApWApSApHAiVOWEL SIGN ItU
iSIGN VIRAMAnPAMUDPOD=171FiLETTER ARCHAIC RAaHANUNOO LETTER ApIpUpKApGApNGApTApDApNApPApBApMApYApRA
pLApWApSApHAiVOWEL SIGN ItUiSIGN PAMUDPODaPHILIPPINE SINGLE PUNCTUATIONlDOUBLE PUNCTUATION
=1740aBUHID LETTER AnInUnKAnGAnNGAnTAnDAnNAnPAnBAnMAnYAnRAnLAnWAnSAnHAgVOWEL SIGN IrU
=1760aTAGBANWA LETTER AqIqUqKAqGAqNGAqTAqDAqNAqPAqBAqMAqYA=176EqLAqWAqSA=1772jVOWEL SIGN IuU
=1780aKHMER LETTER KAoHAoOoHOnNGOnCAoHAoOoHOnNYOnDAnTTHAnDOnTTHOnNNOnTAoHAoOoHOnNOnBAnPHAoOoHOnMOnYO
nROnLOnVOnSHAoSOoAnHAnLAnQAgINDEPENDENT VOWEL QAQ!AzI!IzU!K!U&VyRY!YyLY!YyQEzAIzOO TYPE ONE.TWOzAU
gVOWEL INHERENT AQwAmSIGN AArIsIrYsYrUsUsArOErYArIErErAEsIrOOrAUgSIGN NIKAHITlREAHMUKlYUUKALEAPINTU
lMUUSIKATOANlTRIISAPlBANTOClROBATlTOANDAKHIATlKAKABATlAHSDAlSAMYOK SANNYAlVIRIAMlCOENGlBATHAMASAT
lKHANlBARIYOOSANlCAMNUC PII KUUHlLEK TOOlBEYYALlPHNAEK MUANlKOOMUUTgCURRENCY SYMBOL RIEL
gSIGN AVAKRAHASANYAmTTHACAN=17E0gDIGIT ZEROmONEmTWOnHREEmFOURnIVEmSIXnEVENmEIGHTmNINE
=17F0gSYMBOL LEK ATTAK SONxMUOYxPIIxBEIyUONxPRAM&-MUOY(PII(BEI)UON=1800aMONGOLIAN BIRGAkELLIPSIS
kCOMMAkFULL STOPkCOLONkFOUR DOTSkTODO SOFT HYPHENkSIBE SYLLABLE BOUNDARY MARKERkMANCHU COMMA
rFULL STOPkNIRUGUkFREE VARIATION SELECTOR ONE:TWO;HREEkVOWEL SEPARATORkFREE VARIATION SELECTOR FOUR
kDIGIT ZEROqONEqTWOrHREEqFOURrIVEqSIXrEVENqEIGHTqNINE=1820kLETTER ArErIrOrUrOErUErEErNArANGrBArPArQA
rGArMArLArSAsHArTArDArCHArJArYArRArWArFArKAsHArTSArZArHAArZRArLHArZHIrCHIrTODO LONG VOWEL SIGNwEwIwO
wUwOEwUEwANGwBAwPAwQAwGAwMAwTAwDAwCHAwJAwTSAwYAwWAwKAwGAAwHAAwJIAwNIAwDZArSIBE EwIxYwUExwANGwKAwGA
wHAwPAwSHAwTAwDAwJAwFAwGAAwHAAwTSAwZAwRAAwCHAwZHArMANCHU IyKAyRAyFAyZHArCHA WITH TWO DOTS
=1880rALI GALI ANUSVARA ONE!VISARGA ONE!DAMARU!UBADAMA!INVERTED UBADAMA!BALUDA!THREE BALUDA!A!I!KA
!NGA!CA!TTA(HA!DDA!NNA!TA!DA!PA&HA!SSA!ZHA&A!AHrTODO ALI GALI TA+ZHArMANCHU ALI GALI GHA.NGA.CA.JHA
.TTA.DDHA.TA.DHA.SSA.CYA.ZHA:ArALI GALI HALF U+YArMANCHU ALI GALI BHArALI GALI DAGALGA
rMANCHU ALI GALI LHA=18B0aCANADIAN SYLLABICS OYtAYuAYtWAYtPOYuAYuWOYtTAYtKAYuWAYtMAYtNOYuAYtLAYtSOY
uAYuHOYvAYvWOYtYOYuAYtRAYtNWItOJIBWAY NWItNWIItOJIBWAY NWIItNWOtOJIBWAY NWOtNWOOtOJIBWAY NWOOtRWEEvI
wIvOwOvAtOJIBWAY P&T&K&C&M&N&S(HtEASTERN WtWESTERN WtFINAL SMALL RINGzRAISED DOTtR-CREE RWE
tWEST-CREE LOO*AAtTHWEwAuTHWEwOOwAAuLHWEwOOtSAYISI SHWE(OO!HOOtCARRIER GWU&DENE GEE&GAA(WA
tSAYISI JUUtCARRIER JWAtBEAVER DENE L+RtCARRIER DENTAL S=1900aLIMBU VOWEL-CARRIER LETTERgLETTER KA
oHAnGAoHAnNGAnCAoHAnJAoHAnYANnTAoHAnDAoHAnNAnPAoHAnBAoHAnMAnYAnRAnLAnWAnSHAoSAoAnHAnGYANnTRA
=1920gVOWEL SIGN ArIrUrEErAIrOOrAUrErOgSUBJOINED LETTER YAxRAxWA=1930hMALL LETTER KAtNGAtANUSVARAtTA
tNAtPAtMAtRAtLAhIGN MUKPHRENGlKEMPHRENGlSA-I=1940lLOO=1944gEXCLAMATION MARKgQUESTION MARKgDIGIT ZERO
mONEmTWOnHREEmFOURnIVEmSIXnEVENmEIGHTmNINEaTAI LE LETTER KAoXAoNGAoTSAoSAoYAoTApHAoLAoPApHAoMAoFAoVA
oHAoQAoKHAoTSHAoNAoAoIoEEpHoUoOOpoUEoEoAUEpI=1970oTONE-2t3t4t5t6=1980aNEW TAI LUE LETTER HIGH QA
tLOW QAtHIGH KAyXAyNGAtLOW KAxXAxNGAtHIGH TSAySAyYAtLOW TSAxSAxYAtHIGH TAzHAyNAtLOW TAyHAxNAtHIGH PA
zHAyMAtLOW PAyHAxMAtHIGH FAyVAyLAtLOW FAxVAxLAtHIGH HAyDAyBAtLOW HAxDAxBAtHIGH KVAyXVAtLOW KVAxXVA
tHIGH SUAtLOW SUA=19B0mVOWEL SIGN VOWEL SHORTENERxAAxIIxUyUxExAExOyAxUExAYyAYxUYxOYyAYxUEYxIY
mLETTER FINAL VzNG!zMzKzDzBmTONE MARK-1w2=19D0mDIGIT ZEROsONEsTWOtHREEsFOURtIVEsSIXtEVENsEIGHTsNINE
mTHAM DIGIT ONE=19DEmSIGN LAEuVaKHMER SYMBOL PATHAMASATnMUOY KOETnPII KOETnBEI KOEToUON KOET
nPRAM KOETr-MUOY KOETsPII KOETsBEI KOETtUON KOETnDAP KOETq-MUOY KOETrPII KOETrBEI KOETsUON KOET
rPRAM KOETnTUTEYASATnMUOY ROCnPII ROCnBEI ROCoUON ROCnPRAM ROCr-MUOY ROCsPII ROCsBEI ROCtUON ROC
nDAP ROCq-MUOY ROCrPII ROCrBEI ROCsUON ROCrPRAM ROCaBUGINESE LETTER KAqGAqNGAsKAqPAqBAqMArPAqTAqDA
qNArRAqCAqJAqNYAsCAqYAqRAqLAqVAqSAqAqHAjVOWEL SIGN IuUuEuOuAE=1A1EjPALLAWAjEND OF SECTION
aTAI THAM LETTER HIGH KAwHAwXAqLOW KAvXAvHAqNGAqHIGH CAwHAqLOW CAuSAuCHAqNYAqRATAqHIGH RATHAqDA
qLOW RATHAqRANAqHIGH TAwHAqLOW TAvHAqNAqBAqHIGH PAwHAvFAqLOW PAuFAuPHAqMAqLOW YAqHIGH YAqRArUEqLArUE
qWAqHIGH SHAwSAwAvHAqLLAqAqLOW HAqIrIqUrUqEEqOOqLAEqGREAT SAjCONSONANT SIGN MEDIAL RA+LAyLA TANG LAI
jSIGN MAI KANG LAIjCONSONANT SIGN FINAL NGAyLOW PAyHIGH RATHA OR LOW PAyMAyBAySA=1A60jSIGN SAKOT
jVOWEL SIGN AuMAI SATuAAuTALL AAuIvIuUEvUEvvUuOvA BELOWvYuEuAEuOOuAIuTHAM AIuOA ABOVEjSIGN MAI KANG
oTONE-1t2oKHUEN TONE-3z4z5oRA HAAMoMAI SAMoKHUEN-LUE KARAN=1A7FjCOMBINING CRYPTOGRAMMIC DOT
jHORA DIGIT ZEROuONEuTWOvHREEuFOURvIVEuSIXvEVENuEIGHTuNINE=1A90jTHAM DIGIT ZEROuONEuTWOvHREEuFOUR
vIVEuSIXvEVENuEIGHTuNINE=1AA0jSIGN WIANGtWAAKoSAWANoKEOWoHOYoDOKMAIoREVERSED ROTATED RANAoMAI YAMOK
oKAANsKUUoSATKAANvKUUoHANGoCAANG=1AB0aCOMBINING DOUBLED CIRCUMFLEX ACCENTlIAERESIS-RINGkINFINITY
kDOWNWARDS ARROWkTRIPLE DOTkX-X BELOWkWIGGLY LINE BELOWkOPEN MARK BELOWkDOUBLE OPEN MARK BELOW
kLIGHT CENTRALIZATION STROKE BELOWkSTRONG CENTRALIZATION STROKE BELOWkPARENTHESES ABOVE
kDOUBLE PARENTHESES ABOVEkPARENTHESES BELOWwOVERLAYkLATIN SMALL LETTER W BELOW)TURNED W BELOW
lEFT PARENTHESIS ABOVE LEFTkRIGHT PARENTHESIS ABOVE RIGHTkLEFT PARENTHESIS BELOW LEFT
kRIGHT PARENTHESIS BELOW RIGHTkSQUARE BRACKETS ABOVEkNUMBER SIGN ABOVEkINVERTED DOUBLE ARCH ABOVE
kPLUS SIGN ABOVEkDOUBLE PLUS SIGN ABOVE&BELOWkTRIPLE ACUTE ACCENTkLATIN SMALL LETTER INSULAR G>R>T
=1B00aBALINESE SIGN ULU RICEMsCANDRAoCECEKoSURANGoBISAHjLETTER AKARAv TEDUNGqIKARAv TEDUNGqUKARA
v TEDUNGqRA REPAx TEDUNGqLA LENGAy TEDUNGqEKARAqAIKARAqOKARAv TEDUNGqKAs MAHAPRANAqGAs GORAqNGAqCA
s LACAqJAs JERAqNYAqTA LATIKtMURDA MAHAPRANAqDA MURDA ALPAPRANAzMAHAPRANAqNA RAMBATqTAs TAWAqDA
s MADUqNAqPAs KAPALqBAs KEMBANGqMAqYAqRAqLAqWAqSA SAGAvPAsqHAjSIGN REREKANjVOWEL SIGN TEDUNGuULU
x SARIuSUKUy ILUTuRA REPA& TEDUNGuLA LENGA( TEDUNGuTALING! REPA&TEDUNG&REPA TEDUNGuPEPETz TEDUNG
jADEG ADEGjLETTER KAF SASAKrHOT SASAKqTZIR SASAKqEF SASAKqVE SASAKqZAL SASAKqASYURA SASAK
rRCHAIC JNYA=1B50jDIGIT ZEROpONEpTWOqHREEpFOURqIVEpSIXqEVENpEIGHTpNINEjPANTIlMADAjWINDU
jCARIK PAMUNGKAHpSIKIpPARERENjPAMENENGjMUSICAL SYMBOL DONGzENGzUNGzANG( SURANGzINGzAENGzEUNGzAING
!NG GEDEyCOMBINING TEGEH:ENDEP:KEMPUL?LI:JEGOGAN:KEMPUL WITH JEGOGAN?LI WITH JEGOGAN:BENDE:GONG
yRIGHT-HAND OPEN DUG^AG;CLOSED TUK|AKyLEFT-HAND OPEN PANG]UNG:CLOSED PLAK|UK:OPEN PINGjPANTI LANTANG
lMADA LANTANG=1B80aSUNDANESE SIGN PANYECEKsGLAYARtWISADkLETTER ArIrUrAErOrEsUrKArQArGArNGArCArJArZA
rNYArTArDArNArPArFArVArBArMArYArRArLArWArSArXArHAkCONSONANT SIGN PAMINGKAL&NYAKRA)IKU
kVOWEL SIGN PANGHULUyYUKUyAELAENGyOLONGxMEPETxNEULEUNGkSIGN PAMAAEHpVIRAMA
kCONSONANT SIGN PASANGAN MA:WAkLETTER KHArSYAkDIGIT ZEROqONEqTWOrHREEqFOURrIVEqSIXrEVENqEIGHTqNINE
kAVAGRAHAkLETTER REUrLEUrBHArFINAL KxMaBATAK LETTER AnSIMALUNGUN AnHAnSIMALUNGUN HAnMANDAILING HAnBA
nKARO BAnPAnSIMALUNGUN PAnNAnMANDAILING NAnWAnSIMALUNGUN WAnPAKPAK WAnGAnSIMALUNGUN GAnJAnDAnRA
nSIMALUNGUN RAnMAnSIMALUNGUN MAoOUTHERN TAnNORTHERN TAnSAoIMALUNGUN SAnMANDAILING SAnYA
nSIMALUNGUN YAnNGAnLAnSIMALUNGUN LAnNYAnCAnNDAnMBAnInUgSIGN TOMPIgVOWEL SIGN ErPAKPAK ErEErIrKARO I
rOrKARO OrUs FOR SIMALUNGUN SAgCONSONANT SIGN NGvHgPANGOLATjONGONAN=1BFCgSYMBOL BINDU NA METEK
tPINARBORAStJUDULtPANGOLATaLEPCHA LETTER KApLApHAoGApLAoNGAoCApHAoJAoNYAoTApHAoDAoNAoPApLApHAoFApLA
oBApLAoMApLAoTSAqHAoDZAoYAoRAoLAoHApLAoVAoSApHAoWAoAhSUBJOINED LETTER YAyRAhVOWEL SIGN AAsIsOtOsUtU
sEhCONSONANT SIGN KwMwLwNwPwRwTwNYIN-DOwKANGhSIGN RANmNUKTA=1C3BhPUNCTUATION TA-ROL
tNYET THYOOM TA-ROLtCER-WAtTSHOOK CER-WAzhDIGIT ZEROnONEnTWOoHREEnFOURoIVEnSIXoEVENnEIGHTnNINE
=1C4DhLETTER TTAqHAoDDAaOL CHIKI DIGIT ZEROpONEpTWOqHREEpFOURqIVEpSIXqEVENpEIGHTpNINEjLETTER LAqATrG
rNGrLqLAAqAAKsJsMsWqLIqISrHrNYrRqLUqUCrDrNNrYqLEqEPrDDrNrRRqLOqOTTrBrVrHjMU TTUDDAGjGAAHLAA TTUDDAAG
jMU-GAAHLAA TTUDDAAGjRELAAjPHAARKAAjAHADjPUNCTUATION MUCAADvDOUBLE MUCAAD
aCYRILLIC SMALL LETTER ROUNDED VEwLONG-LEGGED DEwNARROW OwWIDE ESwTALL TExHREE-LEGGED TE
xALL HARD SIGN&YATwUNBLENDED UK=1C90aGEORGIAN MTAVRULI CAPITAL LETTER AN.BAN.GAN.DON.EN.VIN.ZEN.TAN
.IN.KAN.LAS.MAN.NAR.ON.PAR.ZHAR.RAE.SAN.TAR.UN.PHAR.KHAR.GHAN.QAR.SHIN.CHIN:AN.JIL.CIL:HAR.XAN.JHAN
.HAE:E:IE.WE.HAR:OE.FI.YN.ELIFI.TURNED GAN.AIN=1CBD:EN.HARD SIGN.LABIAL SIGN
aSUNDANESE PUNCTUATION BINDU SURYA(PANGLONG)URNAMA(CAKRA(LEU SATANGA(KA SATANGA(DA SATANGA
(BA SATANGA=1CD0aVEDIC TONE KARSHANAlSHARAlPRENKHAgSIGN NIHSHVASAlYAJURVEDIC MIDLINE SVARITA
gTONE YAJURVEDIC AGGRAVATED INDEPENDENT SVARITAwINDEPENDENT SVARITAwKATHAKA INDEPENDENT SVARITA
lCANDRA BELOWlYAJURVEDIC KATHAKA INDEPENDENT SVARITA SCHROEDERlDOUBLE SVARITAlTRIPLE SVARITA
lKATHAKA ANUDATTAlDOT BELOWlTWO DOTS BELOWmHREE DOTS BELOWlRIGVEDIC KASHMIRI INDEPENDENT SVARITA
lATHARVAVEDIC INDEPENDENT SVARITAgSIGN VISARGA SVARITAtUDATTAlREVERSED VISARGA UDATTA
lVISARGA ANUDATTAlREVERSED VISARGA ANUDATTAlVISARGA UDATTA WITH TAILtANUDATTA WITH TAIL
lANUSVARA ANTARGOMUKHAuBAHIRGOMUKHAuVAMAGOMUKHA+ WITH TAILlTIRYAKlHEXIFORM LONG ANUSVARA
lLONG ANUSVARAlRTHANG LONG ANUSVARAlANUSVARA UBHAYATO MUKHAmRDHAVISARGAlROTATED ARDHAVISARGA
gTONE CANDRA ABOVEgSIGN JIHVAMULIYAlUPADHMANIYAlATIKRAMAgTONE RING ABOVElDOUBLE RING ABOVE
gSIGN DOUBLE ANUSVARA ANTARGOMUKHA=1D00aLATIN LETTER SMALL CAPITAL A(EgSMALL LETTER TURNED AE
gLETTER SMALL CAPITAL BARRED B&C&D&ETH(gSMALL LETTER TURNED OPEN E!IgLETTER SMALL CAPITAL J&K
&L WITH STROKE&M&REVERSED N&O(PEN OgSMALL LETTER SIDEWAYS O)PEN O) WITH STROKEtTURNED OE
gLETTER SMALL CAPITAL OUgSMALL LETTER TOP HALF OtBOTTOM HALF OgLETTER SMALL CAPITAL P&REVERSED R
&TURNED R(&UgSMALL LETTER SIDEWAYS U(DIAERESIZED U(TURNED MgLETTER SMALL CAPITAL V&W&Z&EZH
nVOICED LARYNGEAL SPIRANTnAINaGREEK LETTER SMALL CAPITAL GAMMA&LAMDA&PI&RHO&PSI
aCYRILLIC LETTER SMALL CAPITAL ELaMODIFIER LETTER CAPITAL AzEyBzARRED ByDyEyREVERSED EyGyHyIyJyKyLyM
yNyREVERSED NyOzUyPyRyTyUyWqSMALL AwTURNED AwALPHAwTURNED AEwBwDwEwSCHWAwOPEN EwTURNED OPEN EwG
wTURNED IwKwMwENGwOxPEN OwTOP HALF OwBOTTOM HALF OwPwTwUwSIDEWAYS UwTURNED MwVwAINwBETAwGREEK GAMMA
wDELTAwGREEK PHIwCHIaLATIN SUBSCRIPT SMALL LETTER I)R)U)VaGREEK SUBSCRIPT SMALL LETTER BETA)GAMMA
)RHO)PHI)CHIaLATIN SMALL LETTER UEtB WITH MIDDLE TILDEtD WITH MIDDLE TILDEtF WITH MIDDLE TILDE
tM WITH MIDDLE TILDEtN WITH MIDDLE TILDEtP WITH MIDDLE TILDEtR WITH MIDDLE TILDE
!FISHHOOK AND MIDDLE TILDEtS WITH MIDDLE TILDEtT WITH MIDDLE TILDEtZ WITH MIDDLE TILDEtTURNED G
aMODIFIER LETTER CYRILLIC ENaLATIN SMALL LETTER INSULAR GtTH WITH STRIKETHROUGH
mCAPITAL LETTER I WITH STROKEmLETTER IOTA WITH STROKEtP WITH STROKEmCAPITAL LETTER U WITH STROKE
mLETTER UPSILON WITH STROKEtB WITH PALATAL HOOKtD WITH PALATAL HOOKtF WITH PALATAL HOOK
tG WITH PALATAL HOOKtK WITH PALATAL HOOKtL WITH PALATAL HOOKtM WITH PALATAL HOOKtN WITH PALATAL HOOK
tP WITH PALATAL HOOKtR WITH PALATAL HOOKtS WITH PALATAL HOOKtESH WITH PALATAL HOOK
tV WITH PALATAL HOOKtX WITH PALATAL HOOKtZ WITH PALATAL HOOKtA WITH RETROFLEX HOOK
uLPHA WITH RETROFLEX HOOKtD WITH HOOK AND TAILtE WITH RETROFLEX HOOKtOPEN E WITH RETROFLEX HOOK
tREVERSED OPEN E WITH RETROFLEX HOOKtSCHWA WITH RETROFLEX HOOKtI WITH RETROFLEX HOOK
tOPEN O WITH RETROFLEX HOOKtESH WITH RETROFLEX HOOKtU WITH RETROFLEX HOOKtEZH WITH RETROFLEX HOOK
aMODIFIER LETTER SMALL TURNED ALPHAwCx WITH CURLwETHwREVERSED OPEN EwFwDOTLESS J WITH STROKE
wSCRIPT GwTURNED HwI WITH STROKExOTAwCAPITAL I+ WITH STROKEwJ WITH CROSSED-TAIL
wL WITH RETROFLEX HOOK)PALATAL HOOKwCAPITAL LwM WITH HOOKwTURNED M WITH LONG LEGwN WITH LEFT HOOK
)RETROFLEX HOOKwCAPITAL NwBARRED OwPHIwS WITH HOOKwESHwT WITH PALATAL HOOKwU BARxPSILONwCAPITAL U
wV WITH HOOKwTURNED VwZx WITH RETROFLEX HOOK)CURLwEZHwTHETAaCOMBINING DOTTED GRAVE ACCENT
rACUTE ACCENTkSNAKE BELOWlUSPENSION MARKkMACRON-ACUTEkGRAVE-MACRONkMACRON-GRAVEkACUTE-MACRON
kGRAVE-ACUTE-GRAVEkACUTE-GRAVE-ACUTEkLATIN SMALL LETTER R BELOWkBREVE-MACRONkMACRON-BREVE
kDOUBLE CIRCUMFLEX ABOVEkOGONEK ABOVEkZIGZAG BELOWkIS BELOWkUR ABOVElS ABOVE
kLATIN SMALL LETTER FLATTENED OPEN A ABOVE)AE*O*V)C CEDILLA)INSULAR D)ETH)GqLETTER SMALL CAPITAL G
qSMALL LETTER K)LqLETTER SMALL CAPITAL L>MqSMALL LETTER NqLETTER SMALL CAPITAL N>R
qSMALL LETTER R ROTUNDA)S)LONG S)Z)ALPHA)B*ETA)SCHWA)F)L WITH DOUBLE MIDDLE TILDE
)O WITH LIGHT CENTRALIZATION STROKE)P)ESH)U WITH LIGHT CENTRALIZATION STROKE)W)A WITH DIAERESIS
)O WITH DIAERESIS)U WITH DIAERESISkUP TACK ABOVEkKAVYKA ABOVE RIGHTxLEFTkDOT ABOVE LEFT
kWIDE INVERTED BRIDGE BELOWkDOT BELOW LEFTlELETION MARKlOUBLE INVERTED BREVE BELOW
kALMOST EQUAL TO BELOWkLEFT ARROWHEAD ABOVEkRIGHT ARROWHEAD AND DOWN ARROWHEAD BELOW
aLATIN CAPITAL LETTER A WITH RING BELOWgSMALL LETTER A WITH RING BELOW
gCAPITAL LETTER B WITH DOT ABOVEgSMALL LETTER B WITH DOT ABOVEgCAPITAL LETTER B WITH DOT BELOW
gSMALL LETTER B WITH DOT BELOWgCAPITAL LETTER B WITH LINE BELOWgSMALL LETTER B WITH LINE BELOW
gCAPITAL LETTER C WITH CEDILLA AND ACUTEgSMALL LETTER C WITH CEDILLA AND ACUTE
gCAPITAL LETTER D WITH DOT ABOVEgSMALL LETTER D WITH DOT ABOVEgCAPITAL LETTER D WITH DOT BELOW
gSMALL LETTER D WITH DOT BELOWgCAPITAL LETTER D WITH LINE BELOWgSMALL LETTER D WITH LINE BELOW
gCAPITAL LETTER D WITH CEDILLAgSMALL LETTER D WITH CEDILLAgCAPITAL LETTER D WITH CIRCUMFLEX BELOW
gSMALL LETTER D WITH CIRCUMFLEX BELOWgCAPITAL LETTER E WITH MACRON AND GRAVE
gSMALL LETTER E WITH MACRON AND GRAVEgCAPITAL LETTER E WITH MACRON AND ACUTE
gSMALL LETTER E WITH MACRON AND ACUTEgCAPITAL LETTER E WITH CIRCUMFLEX BELOW
gSMALL LETTER E WITH CIRCUMFLEX BELOWgCAPITAL LETTER E WITH TILDE BELOW
gSMALL LETTER E WITH TILDE BELOWgCAPITAL LETTER E WITH CEDILLA AND BREVE
gSMALL LETTER E WITH CEDILLA AND BREVEgCAPITAL LETTER F WITH DOT ABOVEgSMALL LETTER F WITH DOT ABOVE
gCAPITAL LETTER G WITH MACRONgSMALL LETTER G WITH MACRONgCAPITAL LETTER H WITH DOT ABOVE
gSMALL LETTER H WITH DOT ABOVEgCAPITAL LETTER H WITH DOT BELOWgSMALL LETTER H WITH DOT BELOW
gCAPITAL LETTER H WITH DIAERESISgSMALL LETTER H WITH DIAERESISgCAPITAL LETTER H WITH CEDILLA
gSMALL LETTER H WITH CEDILLAgCAPITAL LETTER H WITH BREVE BELOWgSMALL LETTER H WITH BREVE BELOW
gCAPITAL LETTER I WITH TILDE BELOWgSMALL LETTER I WITH TILDE BELOW
gCAPITAL LETTER I WITH DIAERESIS AND ACUTEgSMALL LETTER I WITH DIAERESIS AND ACUTE
gCAPITAL LETTER K WITH ACUTEgSMALL LETTER K WITH ACUTEgCAPITAL LETTER K WITH DOT BELOW
gSMALL LETTER K WITH DOT BELOWgCAPITAL LETTER K WITH LINE BELOWgSMALL LETTER K WITH LINE BELOW
gCAPITAL LETTER L WITH DOT BELOWgSMALL LETTER L WITH DOT BELOW
gCAPITAL LETTER L WITH DOT BELOW AND MACRONgSMALL LETTER L WITH DOT BELOW AND MACRON
gCAPITAL LETTER L WITH LINE BELOWgSMALL LETTER L WITH LINE BELOW
gCAPITAL LETTER L WITH CIRCUMFLEX BELOWgSMALL LETTER L WITH CIRCUMFLEX BELOW
gCAPITAL LETTER M WITH ACUTEgSMALL LETTER M WITH ACUTEgCAPITAL LETTER M WITH DOT ABOVE
gSMALL LETTER M WITH DOT ABOVEgCAPITAL LETTER M WITH DOT BELOWgSMALL LETTER M WITH DOT BELOW
gCAPITAL LETTER N WITH DOT ABOVEgSMALL LETTER N WITH DOT ABOVEgCAPITAL LETTER N WITH DOT BELOW
gSMALL LETTER N WITH DOT BELOWgCAPITAL LETTER N WITH LINE BELOWgSMALL LETTER N WITH LINE BELOW
gCAPITAL LETTER N WITH CIRCUMFLEX BELOWgSMALL LETTER N WITH CIRCUMFLEX BELOW
gCAPITAL LETTER O WITH TILDE AND ACUTEgSMALL LETTER O WITH TILDE AND ACUTE
gCAPITAL LETTER O WITH TILDE AND DIAERESISgSMALL LETTER O WITH TILDE AND DIAERESIS
gCAPITAL LETTER O WITH MACRON AND GRAVEgSMALL LETTER O WITH MACRON AND GRAVE
gCAPITAL LETTER O WITH MACRON AND ACUTEgSMALL LETTER O WITH MACRON AND ACUTE
gCAPITAL LETTER P WITH ACUTEgSMALL LETTER P WITH ACUTEgCAPITAL LETTER P WITH DOT ABOVE
gSMALL LETTER P WITH DOT ABOVEgCAPITAL LETTER R WITH DOT ABOVEgSMALL LETTER R WITH DOT ABOVE
gCAPITAL LETTER R WITH DOT BELOWgSMALL LETTER R WITH DOT BELOW
gCAPITAL LETTER R WITH DOT BELOW AND MACRONgSMALL LETTER R WITH DOT BELOW AND MACRON
gCAPITAL LETTER R WITH LINE BELOWgSMALL LETTER R WITH LINE BELOWgCAPITAL LETTER S WITH DOT ABOVE
gSMALL LETTER S WITH DOT ABOVEgCAPITAL LETTER S WITH DOT BELOWgSMALL LETTER S WITH DOT BELOW
gCAPITAL LETTER S WITH ACUTE AND DOT ABOVEgSMALL LETTER S WITH ACUTE AND DOT ABOVE
gCAPITAL LETTER S WITH CARON AND DOT ABOVEgSMALL LETTER S WITH CARON AND DOT ABOVE
gCAPITAL LETTER S WITH DOT BELOW AND DOT ABOVEgSMALL LETTER S WITH DOT BELOW AND DOT ABOVE
gCAPITAL LETTER T WITH DOT ABOVEgSMALL LETTER T WITH DOT ABOVEgCAPITAL LETTER T WITH DOT BELOW
gSMALL LETTER T WITH DOT BELOWgCAPITAL LETTER T WITH LINE BELOWgSMALL LETTER T WITH LINE BELOW
gCAPITAL LETTER T WITH CIRCUMFLEX BELOWgSMALL LETTER T WITH CIRCUMFLEX BELOW
gCAPITAL LETTER U WITH DIAERESIS BELOWgSMALL LETTER U WITH DIAERESIS BELOW
gCAPITAL LETTER U WITH TILDE BELOWgSMALL LETTER U WITH TILDE BELOW
gCAPITAL LETTER U WITH CIRCUMFLEX BELOWgSMALL LETTER U WITH CIRCUMFLEX BELOW
gCAPITAL LETTER U WITH TILDE AND ACUTEgSMALL LETTER U WITH TILDE AND ACUTE
gCAPITAL LETTER U WITH MACRON AND DIAERESISgSMALL LETTER U WITH MACRON AND DIAERESIS
gCAPITAL LETTER V WITH TILDEgSMALL LETTER V WITH TILDEgCAPITAL LETTER V WITH DOT BELOW
gSMALL LETTER V WITH DOT BELOWgCAPITAL LETTER W WITH GRAVEgSMALL LETTER W WITH GRAVE
gCAPITAL LETTER W WITH ACUTEgSMALL LETTER W WITH ACUTEgCAPITAL LETTER W WITH DIAERESIS
gSMALL LETTER W WITH DIAERESISgCAPITAL LETTER W WITH DOT ABOVEgSMALL LETTER W WITH DOT ABOVE
gCAPITAL LETTER W WITH DOT BELOWgSMALL LETTER W WITH DOT BELOWgCAPITAL LETTER X WITH DOT ABOVE
gSMALL LETTER X WITH DOT ABOVEgCAPITAL LETTER X WITH DIAERESISgSMALL LETTER X WITH DIAERESIS
gCAPITAL LETTER Y WITH DOT ABOVEgSMALL LETTER Y WITH DOT ABOVEgCAPITAL LETTER Z WITH CIRCUMFLEX
gSMALL LETTER Z WITH CIRCUMFLEXgCAPITAL LETTER Z WITH DOT BELOWgSMALL LETTER Z WITH DOT BELOW
gCAPITAL LETTER Z WITH LINE BELOWgSMALL LETTER Z WITH LINE BELOWtH WITH LINE BELOWtT WITH DIAERESIS
tW WITH RING ABOVEtY WITH RING ABOVEtA WITH RIGHT HALF RINGtLONG S WITH DOT ABOVE,IAGONAL STROKE
+HIGH STROKEgCAPITAL LETTER SHARP SgSMALL LETTER DELTAgCAPITAL LETTER A WITH DOT BELOW
gSMALL LETTER A WITH DOT BELOWgCAPITAL LETTER A WITH HOOK ABOVEgSMALL LETTER A WITH HOOK ABOVE
gCAPITAL LETTER A WITH CIRCUMFLEX AND ACUTEgSMALL LETTER A WITH CIRCUMFLEX AND ACUTE
gCAPITAL LETTER A WITH CIRCUMFLEX AND GRAVEgSMALL LETTER A WITH CIRCUMFLEX AND GRAVE
gCAPITAL LETTER A WITH CIRCUMFLEX AND HOOK ABOVEgSMALL LETTER A WITH CIRCUMFLEX AND HOOK ABOVE
gCAPITAL LETTER A WITH CIRCUMFLEX AND TILDEgSMALL LETTER A WITH CIRCUMFLEX AND TILDE
gCAPITAL LETTER A WITH CIRCUMFLEX AND DOT BELOWgSMALL LETTER A WITH CIRCUMFLEX AND DOT BELOW
gCAPITAL LETTER A WITH BREVE AND ACUTEgSMALL LETTER A WITH BREVE AND ACUTE
gCAPITAL LETTER A WITH BREVE AND GRAVEgSMALL LETTER A WITH BREVE AND GRAVE
gCAPITAL LETTER A WITH BREVE AND HOOK ABOVEgSMALL LETTER A WITH BREVE AND HOOK ABOVE
gCAPITAL LETTER A WITH BREVE AND TILDEgSMALL LETTER A WITH BREVE AND TILDE
gCAPITAL LETTER A WITH BREVE AND DOT BELOWgSMALL LETTER A WITH BREVE AND DOT BELOW
gCAPITAL LETTER E WITH DOT BELOWgSMALL LETTER E WITH DOT BELOWgCAPITAL LETTER E WITH HOOK ABOVE
gSMALL LETTER E WITH HOOK ABOVEgCAPITAL LETTER E WITH TILDEgSMALL LETTER E WITH TILDE
gCAPITAL LETTER E WITH CIRCUMFLEX AND ACUTEgSMALL LETTER E WITH CIRCUMFLEX AND ACUTE
gCAPITAL LETTER E WITH CIRCUMFLEX AND GRAVEgSMALL LETTER E WITH CIRCUMFLEX AND GRAVE
gCAPITAL LETTER E WITH CIRCUMFLEX AND HOOK ABOVEgSMALL LETTER E WITH CIRCUMFLEX AND HOOK ABOVE
gCAPITAL LETTER E WITH CIRCUMFLEX AND TILDEgSMALL LETTER E WITH CIRCUMFLEX AND TILDE
gCAPITAL LETTER E WITH CIRCUMFLEX AND DOT BELOWgSMALL LETTER E WITH CIRCUMFLEX AND DOT BELOW
gCAPITAL LETTER I WITH HOOK ABOVEgSMALL LETTER I WITH HOOK ABOVEgCAPITAL LETTER I WITH DOT BELOW
gSMALL LETTER I WITH DOT BELOWgCAPITAL LETTER O WITH DOT BELOWgSMALL LETTER O WITH DOT BELOW
gCAPITAL LETTER O WITH HOOK ABOVEgSMALL LETTER O WITH HOOK ABOVE
gCAPITAL LETTER O WITH CIRCUMFLEX AND ACUTEgSMALL LETTER O WITH CIRCUMFLEX AND ACUTE
gCAPITAL LETTER O WITH CIRCUMFLEX AND GRAVEgSMALL LETTER O WITH CIRCUMFLEX AND GRAVE
gCAPITAL LETTER O WITH CIRCUMFLEX AND HOOK ABOVEgSMALL LETTER O WITH CIRCUMFLEX AND HOOK ABOVE
gCAPITAL LETTER O WITH CIRCUMFLEX AND TILDEgSMALL LETTER O WITH CIRCUMFLEX AND TILDE
gCAPITAL LETTER O WITH CIRCUMFLEX AND DOT BELOWgSMALL LETTER O WITH CIRCUMFLEX AND DOT BELOW
gCAPITAL LETTER O WITH HORN AND ACUTEgSMALL LETTER O WITH HORN AND ACUTE
gCAPITAL LETTER O WITH HORN AND GRAVEgSMALL LETTER O WITH HORN AND GRAVE
gCAPITAL LETTER O WITH HORN AND HOOK ABOVEgSMALL LETTER O WITH HORN AND HOOK ABOVE
gCAPITAL LETTER O WITH HORN AND TILDEgSMALL LETTER O WITH HORN AND TILDE
gCAPITAL LETTER O WITH HORN AND DOT BELOWgSMALL LETTER O WITH HORN AND DOT BELOW
gCAPITAL LETTER U WITH DOT BELOWgSMALL LETTER U WITH DOT BELOWgCAPITAL LETTER U WITH HOOK ABOVE
gSMALL LETTER U WITH HOOK ABOVEgCAPITAL LETTER U WITH HORN AND ACUTE
gSMALL LETTER U WITH HORN AND ACUTEgCAPITAL LETTER U WITH HORN AND GRAVE
gSMALL LETTER U WITH HORN AND GRAVEgCAPITAL LETTER U WITH HORN AND HOOK ABOVE
gSMALL LETTER U WITH HORN AND HOOK ABOVEgCAPITAL LETTER U WITH HORN AND TILDE
gSMALL LETTER U WITH HORN AND TILDEgCAPITAL LETTER U WITH HORN AND DOT BELOW
gSMALL LETTER U WITH HORN AND DOT BELOWgCAPITAL LETTER Y WITH GRAVEgSMALL LETTER Y WITH GRAVE
gCAPITAL LETTER Y WITH DOT BELOWgSMALL LETTER Y WITH DOT BELOWgCAPITAL LETTER Y WITH HOOK ABOVE
gSMALL LETTER Y WITH HOOK ABOVEgCAPITAL LETTER Y WITH TILDEgSMALL LETTER Y WITH TILDE
gCAPITAL LETTER MIDDLE-WELSH LLgSMALL LETTER MIDDLE-WELSH LLgCAPITAL LETTER MIDDLE-WELSH V
gSMALL LETTER MIDDLE-WELSH VgCAPITAL LETTER Y WITH LOOPgSMALL LETTER Y WITH LOOP
aGREEK SMALL LETTER ALPHA WITH PSILI*DASIA*PSILI AND VARIA*DASIA AND VARIA*PSILI AND OXIA
*DASIA AND OXIA*PSILI AND PERISPOMENI*DASIA AND PERISPOMENIgCAPITAL LETTER ALPHA WITH PSILI,DASIA
,PSILI AND VARIA,DASIA AND VARIA,PSILI AND OXIA,DASIA AND OXIA,PSILI AND PERISPOMENI
,DASIA AND PERISPOMENIgSMALL LETTER EPSILON WITH PSILI,DASIA,PSILI AND VARIA,DASIA AND VARIA
,PSILI AND OXIA,DASIA AND OXIA=1F18gCAPITAL LETTER EPSILON WITH PSILI:DASIA:PSILI AND VARIA
:DASIA AND VARIA:PSILI AND OXIA:DASIA AND OXIA=1F20gSMALL LETTER ETA WITH PSILI(DASIA
(PSILI AND VARIA(DASIA AND VARIA(PSILI AND OXIA(DASIA AND OXIA(PSILI AND PERISPOMENI
(DASIA AND PERISPOMENIgCAPITAL LETTER ETA WITH PSILI*DASIA*PSILI AND VARIA*DASIA AND VARIA
*PSILI AND OXIA*DASIA AND OXIA*PSILI AND PERISPOMENI*DASIA AND PERISPOMENI
gSMALL LETTER IOTA WITH PSILI)DASIA)PSILI AND VARIA)DASIA AND VARIA)PSILI AND OXIA)DASIA AND OXIA
)PSILI AND PERISPOMENI)DASIA AND PERISPOMENIgCAPITAL LETTER IOTA WITH PSILI+DASIA+PSILI AND VARIA
+DASIA AND VARIA+PSILI AND OXIA+DASIA AND OXIA+PSILI AND PERISPOMENI+DASIA AND PERISPOMENI
gSMALL LETTER OMICRON WITH PSILI,DASIA,PSILI AND VARIA,DASIA AND VARIA,PSILI AND OXIA,DASIA AND OXIA
=1F48gCAPITAL LETTER OMICRON WITH PSILI:DASIA:PSILI AND VARIA:DASIA AND VARIA:PSILI AND OXIA
:DASIA AND OXIA=1F50gSMALL LETTER UPSILON WITH PSILI,DASIA,PSILI AND VARIA,DASIA AND VARIA
,PSILI AND OXIA,DASIA AND OXIA,PSILI AND PERISPOMENI,DASIA AND PERISPOMENI
=1F59gCAPITAL LETTER UPSILON WITH DASIA=1F5B[ AND VARIA=1F5D~OXIA=1F5F~PERISPOMENI
gSMALL LETTER OMEGA WITH PSILI*DASIA*PSILI AND VARIA*DASIA AND VARIA*PSILI AND OXIA*DASIA AND OXIA
*PSILI AND PERISPOMENI*DASIA AND PERISPOMENIgCAPITAL LETTER OMEGA WITH PSILI,DASIA,PSILI AND VARIA
,DASIA AND VARIA,PSILI AND OXIA,DASIA AND OXIA,PSILI AND PERISPOMENI,DASIA AND PERISPOMENI
gSMALL LETTER ALPHA WITH VARIA*OXIAtEPSILON WITH VARIA,OXIAuTA WITH VARIA(OXIAtIOTA WITH VARIA)OXIA
tOMICRON WITH VARIA,OXIAtUPSILON WITH VARIA,OXIAtOMEGA WITH VARIA*OXIA
=1F80tALPHA WITH PSILI AND YPOGEGRAMMENI*DASIA AND YPOGEGRAMMENI*PSILI AND VARIA AND YPOGEGRAMMENI
*DASIA AND VARIA AND YPOGEGRAMMENI*PSILI AND OXIA AND YPOGEGRAMMENI*DASIA AND OXIA AND YPOGEGRAMMENI
*PSILI AND PERISPOMENI AND YPOGEGRAMMENI*DASIA AND PERISPOMENI AND YPOGEGRAMMENI
gCAPITAL LETTER ALPHA WITH PSILI AND PROSGEGRAMMENI,DASIA AND PROSGEGRAMMENI
,PSILI AND VARIA AND PROSGEGRAMMENI,DASIA AND VARIA AND PROSGEGRAMMENI
,PSILI AND OXIA AND PROSGEGRAMMENI,DASIA AND OXIA AND PROSGEGRAMMENI
,PSILI AND PERISPOMENI AND PROSGEGRAMMENI,DASIA AND PERISPOMENI AND PROSGEGRAMMENI
gSMALL LETTER ETA WITH PSILI AND YPOGEGRAMMENI(DASIA AND YPOGEGRAMMENI
(PSILI AND VARIA AND YPOGEGRAMMENI(DASIA AND VARIA AND YPOGEGRAMMENI
(PSILI AND OXIA AND YPOGEGRAMMENI(DASIA AND OXIA AND YPOGEGRAMMENI
(PSILI AND PERISPOMENI AND YPOGEGRAMMENI(DASIA AND PERISPOMENI AND YPOGEGRAMMENI
gCAPITAL LETTER ETA WITH PSILI AND PROSGEGRAMMENI*DASIA AND PROSGEGRAMMENI
*PSILI AND VARIA AND PROSGEGRAMMENI*DASIA AND VARIA AND PROSGEGRAMMENI
*PSILI AND OXIA AND PROSGEGRAMMENI*DASIA AND OXIA AND PROSGEGRAMMENI
*PSILI AND PERISPOMENI AND PROSGEGRAMMENI*DASIA AND PERISPOMENI AND PROSGEGRAMMENI
gSMALL LETTER OMEGA WITH PSILI AND YPOGEGRAMMENI*DASIA AND YPOGEGRAMMENI
*PSILI AND VARIA AND YPOGEGRAMMENI*DASIA AND VARIA AND YPOGEGRAMMENI
*PSILI AND OXIA AND YPOGEGRAMMENI*DASIA AND OXIA AND YPOGEGRAMMENI
*PSILI AND PERISPOMENI AND YPOGEGRAMMENI*DASIA AND PERISPOMENI AND YPOGEGRAMMENI
gCAPITAL LETTER OMEGA WITH PSILI AND PROSGEGRAMMENI,DASIA AND PROSGEGRAMMENI
,PSILI AND VARIA AND PROSGEGRAMMENI,DASIA AND VARIA AND PROSGEGRAMMENI
,PSILI AND OXIA AND PROSGEGRAMMENI,DASIA AND OXIA AND PROSGEGRAMMENI
,PSILI AND PERISPOMENI AND PROSGEGRAMMENI,DASIA AND PERISPOMENI AND PROSGEGRAMMENI
gSMALL LETTER ALPHA WITH VRACHY*MACRON*VARIA AND YPOGEGRAMMENI*YPOGEGRAMMENI*OXIA AND YPOGEGRAMMENI
=1FB6*PERISPOMENI^ AND YPOGEGRAMMENIgCAPITAL LETTER ALPHA WITH VRACHY,MACRON,VARIA,OXIA
,PROSGEGRAMMENIgKORONISgPROSGEGRAMMENIhSILIhERISPOMENIgDIALYTIKA AND PERISPOMENI
gSMALL LETTER ETA WITH VARIA AND YPOGEGRAMMENI(YPOGEGRAMMENI(OXIA AND YPOGEGRAMMENI=1FC6(PERISPOMENI
[ AND YPOGEGRAMMENIgCAPITAL LETTER EPSILON WITH VARIA:OXIAwTA WITH VARIA*OXIA*PROSGEGRAMMENI
gPSILI AND VARIAqOXIAqPERISPOMENIgSMALL LETTER IOTA WITH VRACHY)MACRON)DIALYTIKA AND VARIA|OXIA
=1FD6)PERISPOMENI)DIALYTIKA AND PERISPOMENIgCAPITAL LETTER IOTA WITH VRACHY+MACRON+VARIA+OXIA
=1FDDgDASIA AND VARIAqOXIAqPERISPOMENIgSMALL LETTER UPSILON WITH VRACHY,MACRON,DIALYTIKA AND VARIA
~D OXIAtRHO WITH PSILI(DASIAtUPSILON WITH PERISPOMENI,DIALYTIKA AND PERISPOMENI
gCAPITAL LETTER UPSILON WITH VRACHY:MACRON:VARIA:OXIAvRHO WITH DASIAgDIALYTIKA AND VARIAuOXIAgVARIA
=1FF2gSMALL LETTER OMEGA WITH VARIA AND YPOGEGRAMMENI*YPOGEGRAMMENI*OXIA AND YPOGEGRAMMENI
=1FF6*PERISPOMENI^ AND YPOGEGRAMMENIgCAPITAL LETTER OMICRON WITH VARIA:OXIAxEGA WITH VARIA,OXIA
,PROSGEGRAMMENIgOXIAgDASIA=2000aEN QUADbM QUADbN SPACEbM SPACEaTHREE-PER-EM SPACEaFOUR-PER-EM SPACE
aSIX-PER-EM SPACEaFIGURE SPACEaPUNCTUATION SPACEaTHIN SPACEaHAIR SPACEaZERO WIDTH SPACElNON-JOINER
lJOINERaLEFT-TO-RIGHT MARKaRIGHT-TO-LEFT MARKaHYPHENaNON-BREAKING HYPHENaFIGURE DASHaEN DASHbM DASH
aHORIZONTAL BARaDOUBLE VERTICAL LINEhLOW LINEaLEFT SINGLE QUOTATION MARKaRIGHT SINGLE QUOTATION MARK
aSINGLE LOW-9 QUOTATION MARKhHIGH-REVERSED-9 QUOTATION MARKaLEFT DOUBLE QUOTATION MARK
aRIGHT DOUBLE QUOTATION MARKaDOUBLE LOW-9 QUOTATION MARKhHIGH-REVERSED-9 QUOTATION MARKbAGGER
bOUBLE DAGGERaBULLETaTRIANGULAR BULLETaONE DOT LEADERaTWO DOT LEADERaHORIZONTAL ELLIPSIS
bYPHENATION POINTaLINE SEPARATORaPARAGRAPH SEPARATORaLEFT-TO-RIGHT EMBEDDINGaRIGHT-TO-LEFT EMBEDDING
aPOP DIRECTIONAL FORMATTINGaLEFT-TO-RIGHT OVERRIDEaRIGHT-TO-LEFT OVERRIDEaNARROW NO-BREAK SPACE
aPER MILLE SIGNeTEN THOUSAND SIGNbRIMEaDOUBLE PRIMEaTRIPLE PRIMEaREVERSED PRIMEjDOUBLE PRIME
jTRIPLE PRIMEaCARETaSINGLE LEFT-POINTING ANGLE QUOTATION MARKhRIGHT-POINTING ANGLE QUOTATION MARK
aREFERENCE MARKaDOUBLE EXCLAMATION MARKaINTERROBANGaOVERLINEaUNDERTIEaCHARACTER TIE
bARET INSERTION POINTaASTERISMaHYPHEN BULLETaFRACTION SLASHaLEFT SQUARE BRACKET WITH QUILL
aRIGHT SQUARE BRACKET WITH QUILLaDOUBLE QUESTION MARKaQUESTION EXCLAMATION MARK
aEXCLAMATION QUESTION MARKaTIRONIAN SIGN ETaREVERSED PILCROW SIGNaBLACK LEFTWARDS BULLET
gRIGHTWARDS BULLETaLOW ASTERISKaREVERSED SEMICOLONaCLOSE UPaTWO ASTERISKS ALIGNED VERTICALLY
aCOMMERCIAL MINUS SIGNaSWUNG DASHaINVERTED UNDERTIEaFLOWER PUNCTUATION MARKaTHREE DOT PUNCTUATION
aQUADRUPLE PRIMEaFOUR DOT PUNCTUATIONbIVE DOT PUNCTUATIONaTWO DOT PUNCTUATIONaFOUR DOT MARK
aDOTTED CROSSaTRICOLONaVERTICAL FOUR DOTSaMEDIUM MATHEMATICAL SPACEaWORD JOINERaFUNCTION APPLICATION
aINVISIBLE TIMESkSEPARATORkPLUS=2066aLEFT-TO-RIGHT ISOLATEaRIGHT-TO-LEFT ISOLATE
aFIRST STRONG ISOLATEaPOP DIRECTIONAL ISOLATEaINHIBIT SYMMETRIC SWAPPINGaACTIVATE SYMMETRIC SWAPPING
aINHIBIT ARABIC FORM SHAPINGaACTIVATE ARABIC FORM SHAPINGaNATIONAL DIGIT SHAPESbOMINAL DIGIT SHAPES
aSUPERSCRIPT ZEROmLATIN SMALL LETTER I=2074mFOURnIVEmSIXnEVENmEIGHTmNINEmPLUS SIGNmMINUSmEQUALS SIGN
mLEFT PARENTHESISmRIGHT PARENTHESISmLATIN SMALL LETTER NcBSCRIPT ZEROkONEkTWOlHREEkFOURlIVEkSIXlEVEN
kEIGHTkNINEkPLUS SIGNkMINUSkEQUALS SIGNkLEFT PARENTHESISkRIGHT PARENTHESIS
=2090aLATIN SUBSCRIPT SMALL LETTER A)E)O)X)SCHWA)H)K)L)M)N)P)S)T=20A0aEURO-CURRENCY SIGNaCOLON SIGN
bRUZEIRO SIGNaFRENCH FRANC SIGNaLIRA SIGNaMILL SIGNaNAIRA SIGNaPESETA SIGNaRUPEE SIGNaWON SIGN
aNEW SHEQEL SIGNaDONG SIGNaEURO SIGNaKIP SIGNaTUGRIK SIGNaDRACHMA SIGNaGERMAN PENNY SIGNaPESO SIGN
aGUARANI SIGNaAUSTRAL SIGNaHRYVNIA SIGNaCEDI SIGNaLIVRE TOURNOIS SIGNaSPESMILO SIGNaTENGE SIGN
aINDIAN RUPEE SIGNaTURKISH LIRA SIGNaNORDIC MARK SIGNaMANAT SIGNaRUBLE SIGNaLARI SIGNaBITCOIN SIGN
aSOM SIGN=20D0aCOMBINING LEFT HARPOON ABOVEkRIGHT HARPOON ABOVEkLONG VERTICAL LINE OVERLAY
kSHORT VERTICAL LINE OVERLAYkANTICLOCKWISE ARROW ABOVEkCLOCKWISE ARROW ABOVEkLEFT ARROW ABOVE
kRIGHT ARROW ABOVEmNG OVERLAYkCLOCKWISE RING OVERLAYkANTICLOCKWISE RING OVERLAYkTHREE DOTS ABOVE
kFOUR DOTS ABOVEkENCLOSING CIRCLEuSQUAREuDIAMONDuCIRCLE BACKSLASHkLEFT RIGHT ARROW ABOVE
kENCLOSING SCREENuKEYCAPuUPWARD POINTING TRIANGLEkREVERSE SOLIDUS OVERLAY
kDOUBLE VERTICAL STROKE OVERLAYkANNUITY SYMBOLkTRIPLE UNDERDOTkWIDE BRIDGE ABOVE
kLEFTWARDS ARROW OVERLAYlONG DOUBLE SOLIDUS OVERLAYkRIGHTWARDS HARPOON WITH BARB DOWNWARDS
kLEFTWARDS HARPOON WITH BARB DOWNWARDSo ARROW BELOWkRIGHT ARROW BELOWkASTERISK ABOVE=2100aACCOUNT OF
bDDRESSED TO THE SUBJECTaDOUBLE-STRUCK CAPITAL CbEGREE CELSIUSaCENTRE LINE SYMBOLbARE OFcDA UNA
aEULER CONSTANTaSCRUPLEaDEGREE FAHRENHEITaSCRIPT SMALL GhCAPITAL HaBLACK-LETTER CAPITAL H
aDOUBLE-STRUCK CAPITAL HaPLANCK CONSTANTp OVER TWO PIaSCRIPT CAPITAL IaBLACK-LETTER CAPITAL I
aSCRIPT CAPITAL LhSMALL LaL B BAR SYMBOLaDOUBLE-STRUCK CAPITAL NaNUMERO SIGN
aSOUND RECORDING COPYRIGHTbCRIPT CAPITAL PaDOUBLE-STRUCK CAPITAL PwQaSCRIPT CAPITAL R
aBLACK-LETTER CAPITAL RaDOUBLE-STRUCK CAPITAL RaPRESCRIPTION TAKEaRESPONSEaSERVICE MARK
aTELEPHONE SIGNbRADE MARK SIGNaVERSICLEaDOUBLE-STRUCK CAPITAL ZaOUNCE SIGNbHM SIGNaINVERTED OHM SIGN
aBLACK-LETTER CAPITAL ZaTURNED GREEK SMALL LETTER IOTAaKELVIN SIGNaANGSTROM SIGNaSCRIPT CAPITAL B
aBLACK-LETTER CAPITAL CaESTIMATED SYMBOLaSCRIPT SMALL EhCAPITAL EpFaTURNED CAPITAL F
aSCRIPT CAPITAL MhSMALL OaALEF SYMBOLaBET SYMBOLaGIMEL SYMBOLaDALET SYMBOLaINFORMATION SOURCE
aROTATED CAPITAL QaFACSIMILE SIGNaDOUBLE-STRUCK SMALL PIuGAMMAoCAPITAL GAMMAwPIoN-ARY SUMMATION
aTURNED SANS-SERIF CAPITAL G!LaREVERSED SANS-SERIF CAPITAL LaTURNED SANS-SERIF CAPITAL Y
aDOUBLE-STRUCK ITALIC CAPITAL DvSMALL D&E&I&JaPROPERTY LINEaTURNED AMPERSANDaPER SIGNaAKTIESELSKAB
aTURNED SMALL FaSYMBOL FOR SAMARITAN SOURCEaVULGAR FRACTION ONE SEVENTHuNINTHuTENTHvHIRDqTWO THIRDS
qONE FIFTHqTWO FIFTHSrHREE FIFTHSqFOUR FIFTHSqONE SIXTHqFIVE SIXTHSqONE EIGHTHqTHREE EIGHTHS
qFIVE EIGHTHSqSEVEN EIGHTHSaFRACTION NUMERATOR ONEaROMAN NUMERAL ONEoTWOpHREEoFOURpIVEoSIXpEVEN
oEIGHToNINEoTENoELEVENoTWELVEoFIFTYoONE HUNDREDoFIVE HUNDREDoONE THOUSANDaSMALL ROMAN NUMERAL ONE
uTWOvHREEuFOURvIVEuSIXvEVENuEIGHTuNINEuTENuELEVENuTWELVEuFIFTYuONE HUNDREDuFIVE HUNDREDuONE THOUSAND
aROMAN NUMERAL ONE THOUSAND C DoFIVE THOUSANDoTEN THOUSANDoREVERSED ONE HUNDRED
aLATIN SMALL LETTER REVERSED CaROMAN NUMERAL SIX LATE FORMoFIFTY EARLY FORMuTHOUSAND
oONE HUNDRED THOUSANDaVULGAR FRACTION ZERO THIRDSaTURNED DIGIT TWOoHREE=2190aLEFTWARDS ARROW
aUPWARDS ARROWaRIGHTWARDS ARROWaDOWNWARDS ARROWaLEFT RIGHT ARROWaUP DOWN ARROWaNORTH WEST ARROW
gEAST ARROWaSOUTH EAST ARROWgWEST ARROWaLEFTWARDS ARROW WITH STROKEaRIGHTWARDS ARROW WITH STROKE
aLEFTWARDS WAVE ARROWaRIGHTWARDS WAVE ARROWaLEFTWARDS TWO HEADED ARROWaUPWARDS TWO HEADED ARROW
aRIGHTWARDS TWO HEADED ARROWaDOWNWARDS TWO HEADED ARROWaLEFTWARDS ARROW WITH TAIL
aRIGHTWARDS ARROW WITH TAILaLEFTWARDS ARROW FROM BARaUPWARDS ARROW FROM BAR
aRIGHTWARDS ARROW FROM BARaDOWNWARDS ARROW FROM BARaUP DOWN ARROW WITH BASE
aLEFTWARDS ARROW WITH HOOKaRIGHTWARDS ARROW WITH HOOKaLEFTWARDS ARROW WITH LOOP
aRIGHTWARDS ARROW WITH LOOPaLEFT RIGHT WAVE ARROWlARROW WITH STROKEaDOWNWARDS ZIGZAG ARROW
aUPWARDS ARROW WITH TIP LEFTWARDSxRIGHTWARDSaDOWNWARDS ARROW WITH TIP LEFTWARDSzRIGHTWARDS
aRIGHTWARDS ARROW WITH CORNER DOWNWARDSaDOWNWARDS ARROW WITH CORNER LEFTWARDS
aANTICLOCKWISE TOP SEMICIRCLE ARROWaCLOCKWISE TOP SEMICIRCLE ARROWaNORTH WEST ARROW TO LONG BAR
aLEFTWARDS ARROW TO BAR OVER RIGHTWARDS ARROW TO BARaANTICLOCKWISE OPEN CIRCLE ARROW
aCLOCKWISE OPEN CIRCLE ARROWaLEFTWARDS HARPOON WITH BARB UPWARDS(DOWNWARDS
aUPWARDS HARPOON WITH BARB RIGHTWARDS!LEFTWARDSaRIGHTWARDS HARPOON WITH BARB UPWARDS)DOWNWARDS
aDOWNWARDS HARPOON WITH BARB RIGHTWARDS(LEFTWARDSaRIGHTWARDS ARROW OVER LEFTWARDS ARROW
aUPWARDS ARROW LEFTWARDS OF DOWNWARDS ARROWaLEFTWARDS ARROW OVER RIGHTWARDS ARROWkPAIRED ARROWS
aUPWARDS PAIRED ARROWSaRIGHTWARDS PAIRED ARROWSaDOWNWARDS PAIRED ARROWS
aLEFTWARDS HARPOON OVER RIGHTWARDS HARPOONaRIGHTWARDS HARPOON OVER LEFTWARDS HARPOON
aLEFTWARDS DOUBLE ARROW WITH STROKEe RIGHT DOUBLE ARROW WITH STROKE
aRIGHTWARDS DOUBLE ARROW WITH STROKEaLEFTWARDS DOUBLE ARROWaUPWARDS DOUBLE ARROW
aRIGHTWARDS DOUBLE ARROWaDOWNWARDS DOUBLE ARROWaLEFT RIGHT DOUBLE ARROWaUP DOWN DOUBLE ARROW
aNORTH WEST DOUBLE ARROWgEAST DOUBLE ARROWaSOUTH EAST DOUBLE ARROWgWEST DOUBLE ARROW
aLEFTWARDS TRIPLE ARROWaRIGHTWARDS TRIPLE ARROWaLEFTWARDS SQUIGGLE ARROWaRIGHTWARDS SQUIGGLE ARROW
aUPWARDS ARROW WITH DOUBLE STROKEaDOWNWARDS ARROW WITH DOUBLE STROKEaLEFTWARDS DASHED ARROW
aUPWARDS DASHED ARROWaRIGHTWARDS DASHED ARROWaDOWNWARDS DASHED ARROWaLEFTWARDS ARROW TO BAR
aRIGHTWARDS ARROW TO BARaLEFTWARDS WHITE ARROWaUPWARDS WHITE ARROWaRIGHTWARDS WHITE ARROW
aDOWNWARDS WHITE ARROWaUPWARDS WHITE ARROW FROM BARuON PEDESTAL+ WITH HORIZONTAL BAR>VERTICAL BAR
oDOUBLE ARROW! ON PEDESTALaRIGHTWARDS WHITE ARROW FROM WALLaNORTH WEST ARROW TO CORNER
aSOUTH EAST ARROW TO CORNERaUP DOWN WHITE ARROWaRIGHT ARROW WITH SMALL CIRCLE
aDOWNWARDS ARROW LEFTWARDS OF UPWARDS ARROWaTHREE RIGHTWARDS ARROWS
aLEFTWARDS ARROW WITH VERTICAL STROKEaRIGHTWARDS ARROW WITH VERTICAL STROKE
aLEFT RIGHT ARROW WITH VERTICAL STROKEeWARDS ARROW WITH DOUBLE VERTICAL STROKE
aRIGHTWARDS ARROW WITH DOUBLE VERTICAL STROKEaLEFT RIGHT ARROW WITH DOUBLE VERTICAL STROKE
eWARDS OPEN-HEADED ARROWaRIGHTWARDS OPEN-HEADED ARROWaLEFT RIGHT OPEN-HEADED ARROWaFOR ALL
aCOMPLEMENTaPARTIAL DIFFERENTIALaTHERE EXISTSgDOES NOT EXISTaEMPTY SETaINCREMENTaNABLAaELEMENT OF
aNOT AN ELEMENT OFaSMALL ELEMENT OFaCONTAINS AS MEMBERaDOES NOT CONTAIN AS MEMBER
aSMALL CONTAINS AS MEMBERaEND OF PROOFaN-ARY PRODUCTgCOPRODUCTgSUMMATIONaMINUS SIGNf-OR-PLUS SIGN
aDOT PLUSbIVISION SLASHaSET MINUSaASTERISK OPERATORaRING OPERATORaBULLET OPERATORaSQUARE ROOT
aCUBE ROOTaFOURTH ROOTaPROPORTIONAL TOaINFINITYaRIGHT ANGLEaANGLEaMEASURED ANGLEaSPHERICAL ANGLE
aDIVIDESbOES NOT DIVIDEaPARALLEL TOaNOT PARALLEL TOaLOGICAL ANDiORaINTERSECTIONaUNIONaINTEGRAL
aDOUBLE INTEGRALaTRIPLE INTEGRALaCONTOUR INTEGRALaSURFACE INTEGRALaVOLUME INTEGRAL
aCLOCKWISE INTEGRALkCONTOUR INTEGRALaANTICLOCKWISE CONTOUR INTEGRALaTHEREFOREaBECAUSEaRATIO
aPROPORTIONaDOT MINUSaEXCESSaGEOMETRIC PROPORTIONaHOMOTHETICaTILDE OPERATORaREVERSED TILDE
aINVERTED LAZY SaSINE WAVEaWREATH PRODUCTaNOT TILDEaMINUS TILDEaASYMPTOTICALLY EQUAL TO
aNOT ASYMPTOTICALLY EQUAL TOaAPPROXIMATELY EQUAL TOoBUT NOT ACTUALLY EQUAL TO
aNEITHER APPROXIMATELY NOR ACTUALLY EQUAL TOaALMOST EQUAL TOaNOT ALMOST EQUAL TO
aALMOST EQUAL OR EQUAL TOaTRIPLE TILDEaALL EQUAL TOaEQUIVALENT TOaGEOMETRICALLY EQUIVALENT TO
aDIFFERENCE BETWEENaAPPROACHES THE LIMITaGEOMETRICALLY EQUAL TO
aAPPROXIMATELY EQUAL TO OR THE IMAGE OFaIMAGE OF OR APPROXIMATELY EQUAL TOaCOLON EQUALSaEQUALS COLON
aRING IN EQUAL TOfEQUAL TOaCORRESPONDS TOaESTIMATESbQUIANGULAR TOaSTAR EQUALSaDELTA EQUAL TO
aEQUAL TO BY DEFINITIONaMEASURED BYaQUESTIONED EQUAL TOaNOT EQUAL TOaIDENTICAL TOaNOT IDENTICAL TO
aSTRICTLY EQUIVALENT TOaLESS-THAN OR EQUAL TOaGREATER-THAN OR EQUAL TOaLESS-THAN OVER EQUAL TO
aGREATER-THAN OVER EQUAL TOaLESS-THAN BUT NOT EQUAL TOaGREATER-THAN BUT NOT EQUAL TOaMUCH LESS-THAN
fGREATER-THANaBETWEENaNOT EQUIVALENT TOeLESS-THANeGREATER-THANbEITHER LESS-THAN NOR EQUAL TO
iGREATER-THAN NOR EQUAL TOaLESS-THAN OR EQUIVALENT TOaGREATER-THAN OR EQUIVALENT TO
aNEITHER LESS-THAN NOR EQUIVALENT TOiGREATER-THAN NOR EQUIVALENT TOaLESS-THAN OR GREATER-THAN
aGREATER-THAN OR LESS-THANaNEITHER LESS-THAN NOR GREATER-THANiGREATER-THAN NOR LESS-THANaPRECEDES
aSUCCEEDSaPRECEDES OR EQUAL TOaSUCCEEDS OR EQUAL TOaPRECEDES OR EQUIVALENT TO
aSUCCEEDS OR EQUIVALENT TOaDOES NOT PRECEDEjSUCCEEDaSUBSET OFcPERSET OFaNOT A SUBSET OFiPERSET OF
aSUBSET OF OR EQUAL TOcPERSET OF OR EQUAL TOaNEITHER A SUBSET OF NOR EQUAL TOmPERSET OF NOR EQUAL TO
aSUBSET OF WITH NOT EQUAL TOcPERSET OF WITH NOT EQUAL TOaMULTISETi MULTIPLICATIONjUNION
aSQUARE IMAGE OFhORIGINAL OFhIMAGE OF OR EQUAL TOhORIGINAL OF OR EQUAL TOhCAPiUPaCIRCLED PLUSiMINUS
iTIMESiDIVISION SLASHjOT OPERATORiRING OPERATORiASTERISK OPERATORiEQUALSiDASHaSQUARED PLUSiMINUS
iTIMESiDOT OPERATORaRIGHT TACKaLEFT TACKaDOWN TACKaUP TACKaASSERTIONaMODELSaTRUEaFORCES
aTRIPLE VERTICAL BAR RIGHT TURNSTILEaDOUBLE VERTICAL BAR DOUBLE RIGHT TURNSTILEcES NOT PROVE
aNOT TRUEaDOES NOT FORCEaNEGATED DOUBLE VERTICAL BAR DOUBLE RIGHT TURNSTILEaPRECEDES UNDER RELATION
aSUCCEEDS UNDER RELATIONaNORMAL SUBGROUP OFaCONTAINS AS NORMAL SUBGROUP
aNORMAL SUBGROUP OF OR EQUAL TOaCONTAINS AS NORMAL SUBGROUP OR EQUAL TOaORIGINAL OFaIMAGE OF
aMULTIMAPaHERMITIAN CONJUGATE MATRIXaINTERCALATEaXORaNANDbORaRIGHT ANGLE WITH ARCgTRIANGLE
aN-ARY LOGICAL ANDoORgINTERSECTIONgUNIONaDIAMOND OPERATORbOT OPERATORaSTAR OPERATORaDIVISION TIMES
aBOWTIEaLEFT NORMAL FACTOR SEMIDIRECT PRODUCTaRIGHT NORMAL FACTOR SEMIDIRECT PRODUCT
aLEFT SEMIDIRECT PRODUCTaRIGHT SEMIDIRECT PRODUCTbEVERSED TILDE EQUALSaCURLY LOGICAL ORoAND
aDOUBLE SUBSETjPERSEThINTERSECTIONhUNIONaPITCHFORKaEQUAL AND PARALLEL TOaLESS-THAN WITH DOT
aGREATER-THAN WITH DOTaVERY MUCH LESS-THANkGREATER-THANaLESS-THAN EQUAL TO OR GREATER-THAN
aGREATER-THAN EQUAL TO OR LESS-THANaEQUAL TO OR LESS-THANmGREATER-THANmPRECEDESmSUCCEEDS
aDOES NOT PRECEDE OR EQUALjSUCCEED OR EQUALaNOT SQUARE IMAGE OF OR EQUAL TOlORIGINAL OF OR EQUAL TO
aSQUARE IMAGE OF OR NOT EQUAL TOhORIGINAL OF OR NOT EQUAL TOaLESS-THAN BUT NOT EQUIVALENT TO
aGREATER-THAN BUT NOT EQUIVALENT TOaPRECEDES BUT NOT EQUIVALENT TOaSUCCEEDS BUT NOT EQUIVALENT TO
aNOT NORMAL SUBGROUP OFaDOES NOT CONTAIN AS NORMAL SUBGROUPaNOT NORMAL SUBGROUP OF OR EQUAL TO
aDOES NOT CONTAIN AS NORMAL SUBGROUP OR EQUALaVERTICAL ELLIPSISaMIDLINE HORIZONTAL ELLIPSIS
aUP RIGHT DIAGONAL ELLIPSISaDOWN RIGHT DIAGONAL ELLIPSISaELEMENT OF WITH LONG HORIZONTAL STROKE
qVERTICAL BAR AT END OF HORIZONTAL STROKE
aSMALL ELEMENT OF WITH VERTICAL BAR AT END OF HORIZONTAL STROKEaELEMENT OF WITH DOT ABOVEqOVERBAR
aSMALL ELEMENT OF WITH OVERBARaELEMENT OF WITH UNDERBARqTWO HORIZONTAL STROKES
aCONTAINS WITH LONG HORIZONTAL STROKEoVERTICAL BAR AT END OF HORIZONTAL STROKE
aSMALL CONTAINS WITH VERTICAL BAR AT END OF HORIZONTAL STROKEaCONTAINS WITH OVERBAR
aSMALL CONTAINS WITH OVERBARaZ NOTATION BAG MEMBERSHIPaDIAMETER SIGNaELECTRIC ARROWaHOUSE
aUP ARROWHEADaDOWN ARROWHEADaPROJECTIVEbERSPECTIVEaWAVY LINEaLEFT CEILINGaRIGHT CEILINGaLEFT FLOOR
aRIGHT FLOORaBOTTOM RIGHT CROPhLEFT CROPaTOP RIGHT CROPeLEFT CROPaREVERSED NOT SIGNaSQUARE LOZENGE
aARCaSEGMENTcCTORaTELEPHONE RECORDERaPOSITION INDICATORaVIEWDATA SQUAREaPLACE OF INTEREST SIGN
aTURNED NOT SIGNaWATCHaHOURGLASSaTOP LEFT CORNEReRIGHT CORNERaBOTTOM LEFT CORNERhRIGHT CORNER
aTOP HALF INTEGRALaBOTTOM HALF INTEGRALaFROWNaSMILEaUP ARROWHEAD BETWEEN TWO HORIZONTAL BARS
aOPTION KEYaERASE TO THE RIGHTaX IN A RECTANGLE BOXaKEYBOARDaLEFT-POINTING ANGLE BRACKET
aRIGHT-POINTING ANGLE BRACKETaERASE TO THE LEFTaBENZENE RINGaCYLINDRICITYaALL AROUND-PROFILE
aSYMMETRYaTOTAL RUNOUTaDIMENSION ORIGINaCONICAL TAPERaSLOPEaCOUNTERBOREhSINK
aAPL FUNCTIONAL SYMBOL I-BEAMwSQUISH QUADwQUAD EQUAL&DIVIDE)AMOND&JOT&CIRCLEwCIRCLE STILE)JOT
wSLASH BARwBACKSLASH BARwQUAD SLASH&BACKSLASH&LESS-THAN&GREATER-THANwLEFTWARDS VANEwRIGHTWARDS VANE
wQUAD LEFTWARDS ARROW&RIGHTWARDS ARROWwCIRCLE BACKSLASHwDOWN TACK UNDERBARxELTA STILE
wQUAD DOWN CARET(ELTAwDOWN TACK JOTwUPWARDS VANEwQUAD UPWARDS ARROWwUP TACK OVERBARwDEL STILE
wQUAD UP CARET&DELwUP TACK JOTwDOWNWARDS VANEwQUAD DOWNWARDS ARROWyOTE UNDERBARwDELTA UNDERBAR
xIAMOND UNDERBARwJOT UNDERBARwCIRCLE UNDERBARwUP SHOE JOTwQUOTE QUADwCIRCLE STARwQUAD COLON
wUP TACK DIAERESISwDEL DIAERESISwSTAR DIAERESISwJOT DIAERESISwCIRCLE DIAERESISwDOWN SHOE STILE
wLEFT SHOE STILEwTILDE DIAERESISwGREATER-THAN DIAERESISwCOMMA BARwDEL TILDEwZILDEwSTILE TILDE
xEMICOLON UNDERBARwQUAD NOT EQUAL&QUESTIONwDOWN CARET TILDEwUP CARET TILDEwIOTAwRHOwOMEGA
wALPHA UNDERBARwEPSILON UNDERBARwIOTA UNDERBARwOMEGA UNDERBARwALPHAaNOT CHECK MARK
aRIGHT ANGLE WITH DOWNWARDS ZIGZAG ARROWaSHOULDERED OPEN BOXaBELL SYMBOL
aVERTICAL LINE WITH MIDDLE DOTaINSERTION SYMBOLaCONTINUOUS UNDERLINE SYMBOL
aDISCONTINUOUS UNDERLINE SYMBOLaEMPHASIS SYMBOLaCOMPOSITION SYMBOL
aWHITE SQUARE WITH CENTRE VERTICAL LINEaENTER SYMBOLaALTERNATIVE KEY SYMBOLaHELM SYMBOL
aCIRCLED HORIZONTAL BAR WITH NOTCHiTRIANGLE DOWNaBROKEN CIRCLE WITH NORTHWEST ARROWaUNDO SYMBOL
aMONOSTABLE SYMBOLaHYSTERESIS SYMBOLaOPEN-CIRCUIT-OUTPUT H-TYPE SYMBOLuL-TYPE SYMBOL
aPASSIVE-PULL-DOWN-OUTPUT SYMBOLnUP-OUTPUT SYMBOLaDIRECT CURRENT SYMBOL FORM TWO
aSOFTWARE-FUNCTION SYMBOLaAPL FUNCTIONAL SYMBOL QUADaDECIMAL SEPARATOR KEY SYMBOLaPREVIOUS PAGE
aNEXT PAGEaPRINT SCREEN SYMBOLaCLEAR SCREEN SYMBOLaLEFT PARENTHESIS UPPER HOOKrEXTENSIONrLOWER HOOK
aRIGHT PARENTHESIS UPPER HOOKsEXTENSIONsLOWER HOOKaLEFT SQUARE BRACKET UPPER CORNERuEXTENSION
uLOWER CORNERaRIGHT SQUARE BRACKET UPPER CORNERvEXTENSIONvLOWER CORNERaLEFT CURLY BRACKET UPPER HOOK
tMIDDLE PIECEtLOWER HOOKaCURLY BRACKET EXTENSIONaRIGHT CURLY BRACKET UPPER HOOKuMIDDLE PIECE
uLOWER HOOKaINTEGRAL EXTENSIONaHORIZONTAL LINE EXTENSION
aUPPER LEFT OR LOWER RIGHT CURLY BRACKET SECTIONgRIGHT OR LOWER LEFT CURLY BRACKET SECTION
aSUMMATION TOPkBOTTOMaTOP SQUARE BRACKETaBOTTOM SQUARE BRACKETv OVER TOP SQUARE BRACKET
aRADICAL SYMBOL BOTTOMaLEFT VERTICAL BOX LINEaRIGHT VERTICAL BOX LINEaHORIZONTAL SCAN LINE-1v3v7v9
aDENTISTRY SYMBOL LIGHT VERTICAL AND TOP RIGHT<BOTTOM RIGHT,WITH CIRCLE
xDOWN AND HORIZONTAL WITH CIRCLExUP AND HORIZONTAL WITH CIRCLExVERTICAL WITH TRIANGLE
xDOWN AND HORIZONTAL WITH TRIANGLExUP AND HORIZONTAL WITH TRIANGLExVERTICAL AND WAVE
xDOWN AND HORIZONTAL WITH WAVExUP AND HORIZONTAL WITH WAVExDOWN AND HORIZONTALxUP AND HORIZONTAL
xVERTICAL AND TOP LEFT<BOTTOM LEFTaSQUARE FOOTaRETURN SYMBOLaEJECT SYMBOLaVERTICAL LINE EXTENSION
aMETRICAL BREVEjLONG OVER SHORTjSHORT OVER LONGjLONG OVER TWO SHORTSjTWO SHORTS OVER LONGuJOINED
kRISEMEkETRASEMEjPENTASEMEaEARTH GROUNDaFUSEaTOP PARENTHESISaBOTTOM PARENTHESISaTOP CURLY BRACKET
aBOTTOM CURLY BRACKETaTOP TORTOISE SHELL BRACKETaBOTTOM TORTOISE SHELL BRACKETaWHITE TRAPEZIUM
aBENZENE RING WITH CIRCLEaSTRAIGHTNESSaFLATNESSaAC CURRENTaELECTRICAL INTERSECTION
aDECIMAL EXPONENT SYMBOLaBLACK RIGHT-POINTING DOUBLE TRIANGLEgLEFT-POINTING DOUBLE TRIANGLE
gUP-POINTING DOUBLE TRIANGLEgDOWN-POINTING DOUBLE TRIANGLE
gRIGHT-POINTING DOUBLE TRIANGLE WITH VERTICAL BARgLEFT-POINTING DOUBLE TRIANGLE WITH VERTICAL BAR
gRIGHT-POINTING TRIANGLE WITH DOUBLE VERTICAL BARaALARM CLOCKaSTOPWATCHaTIMER CLOCK
aHOURGLASS WITH FLOWING SANDaBLACK MEDIUM LEFT-POINTING TRIANGLEnRIGHT-POINTING TRIANGLE
nUP-POINTING TRIANGLEnDOWN-POINTING TRIANGLEaDOUBLE VERTICAL BARaBLACK SQUARE FOR STOP
gCIRCLE FOR RECORDaPOWER SYMBOLgON-OFF SYMBOLi SYMBOLgSLEEP SYMBOLaOBSERVER EYE SYMBOL
aSYMBOL FOR NULLlSTART OF HEADINGuTEXTlEND OF TEXTtRANSMISSIONnQUIRYlACKNOWLEDGElBELLmACKSPACE
lHORIZONTAL TABULATIONlLINE FEEDlVERTICAL TABULATIONlFORM FEEDlCARRIAGE RETURNlSHIFT OUTrIN
lDATA LINK ESCAPEmEVICE CONTROL ONE!TWO&HREE!FOURlNEGATIVE ACKNOWLEDGElSYNCHRONOUS IDLE
lEND OF TRANSMISSION BLOCKlCANCELlEND OF MEDIUMlSUBSTITUTElESCAPElFILE SEPARATORlGROUP SEPARATOR
lRECORD SEPARATORlUNIT SEPARATORlSPACElDELETEaBLANK SYMBOLaOPEN BOXaSYMBOL FOR NEWLINE
lDELETE FORM TWOlSUBSTITUTE FORM TWO=2440aOCR HOOKeCHAIReFORKeINVERTED FORKeBELT BUCKLEfOW TIE
fRANCH BANK IDENTIFICATIONeAMOUNT OF CHECKeDASHeCUSTOMER ACCOUNT NUMBEReDOUBLE BACKSLASH
=2460aCIRCLED DIGIT ONEoTWOpHREEoFOURpIVEoSIXpEVENoEIGHToNINEiNUMBER TENpELEVENpTWELVEqHIRTEEN
pFOURTEENqIFTEENpSIXTEENqEVENTEENpEIGHTEENpNINETEENpTWENTYaPARENTHESIZED DIGIT ONEuTWOvHREEuFOURvIVE
uSIXvEVENuEIGHTuNINEoNUMBER TENvELEVENvTWELVEwHIRTEENvFOURTEENwIFTEENvSIXTEENwEVENTEENvEIGHTEEN
vNINETEENvTWENTYaDIGIT ONE FULL STOPgTWO FULL STOPhHREE FULL STOPgFOUR FULL STOPhIVE FULL STOP
gSIX FULL STOPhEVEN FULL STOPgEIGHT FULL STOPgNINE FULL STOPaNUMBER TEN FULL STOPhELEVEN FULL STOP
hTWELVE FULL STOPiHIRTEEN FULL STOPhFOURTEEN FULL STOPiIFTEEN FULL STOPhSIXTEEN FULL STOP
iEVENTEEN FULL STOPhEIGHTEEN FULL STOPhNINETEEN FULL STOPhTWENTY FULL STOP
aPARENTHESIZED LATIN SMALL LETTER A.B.C.D.E.F.G.H.I.J.K.L.M.N.O.P.Q.R.S.T.U.V.W.X.Y.Z
aCIRCLED LATIN CAPITAL LETTER A)B)C)D)E)F)G)H)I)J)K)L)M)N)O)P)Q)R)S)T)U)V)W)X)Y)ZoSMALL LETTER A&B&C
&D&E&F&G&H&I&J&K&L&M&N&O&P&Q&R&S&T&U&V&W&X&Y&ZiDIGIT ZEROaNEGATIVE CIRCLED NUMBER ELEVENyTWELVE
zHIRTEENyFOURTEENzIFTEENySIXTEENzEVENTEENyEIGHTEENyNINETEENyTWENTYaDOUBLE CIRCLED DIGIT ONEvTWOwHREE
vFOURwIVEvSIXwEVENvEIGHTvNINEpNUMBER TENaNEGATIVE CIRCLED DIGIT ZEROaBOX DRAWINGS LIGHT HORIZONTAL
nHEAVY HORIZONTALnLIGHT VERTICALnHEAVY VERTICALnLIGHT TRIPLE DASH HORIZONTAL
nHEAVY TRIPLE DASH HORIZONTALnLIGHT TRIPLE DASH VERTICALnHEAVY TRIPLE DASH VERTICAL
nLIGHT QUADRUPLE DASH HORIZONTALnHEAVY QUADRUPLE DASH HORIZONTALnLIGHT QUADRUPLE DASH VERTICAL
nHEAVY QUADRUPLE DASH VERTICALnLIGHT DOWN AND RIGHTnDOWN LIGHT AND RIGHT HEAVYsHEAVY AND RIGHT LIGHT
nHEAVY DOWN AND RIGHTnLIGHT DOWN AND LEFTnDOWN LIGHT AND LEFT HEAVYsHEAVY AND LEFT LIGHT
nHEAVY DOWN AND LEFTnLIGHT UP AND RIGHTnUP LIGHT AND RIGHT HEAVYqHEAVY AND RIGHT LIGHT
nHEAVY UP AND RIGHTnLIGHT UP AND LEFTnUP LIGHT AND LEFT HEAVYqHEAVY AND LEFT LIGHTnHEAVY UP AND LEFT
nLIGHT VERTICAL AND RIGHTnVERTICAL LIGHT AND RIGHT HEAVYnUP HEAVY AND RIGHT DOWN LIGHT
nDOWN HEAVY AND RIGHT UP LIGHTnVERTICAL HEAVY AND RIGHT LIGHTnDOWN LIGHT AND RIGHT UP HEAVY
nUP LIGHT AND RIGHT DOWN HEAVYnHEAVY VERTICAL AND RIGHTnLIGHT VERTICAL AND LEFT
nVERTICAL LIGHT AND LEFT HEAVYnUP HEAVY AND LEFT DOWN LIGHTnDOWN HEAVY AND LEFT UP LIGHT
nVERTICAL HEAVY AND LEFT LIGHTnDOWN LIGHT AND LEFT UP HEAVYnUP LIGHT AND LEFT DOWN HEAVY
nHEAVY VERTICAL AND LEFTnLIGHT DOWN AND HORIZONTALoEFT HEAVY AND RIGHT DOWN LIGHT
nRIGHT HEAVY AND LEFT DOWN LIGHTnDOWN LIGHT AND HORIZONTAL HEAVYsHEAVY AND HORIZONTAL LIGHT
nRIGHT LIGHT AND LEFT DOWN HEAVYnLEFT LIGHT AND RIGHT DOWN HEAVYnHEAVY DOWN AND HORIZONTAL
nLIGHT UP AND HORIZONTALoEFT HEAVY AND RIGHT UP LIGHTnRIGHT HEAVY AND LEFT UP LIGHT
nUP LIGHT AND HORIZONTAL HEAVYqHEAVY AND HORIZONTAL LIGHTnRIGHT LIGHT AND LEFT UP HEAVY
nLEFT LIGHT AND RIGHT UP HEAVYnHEAVY UP AND HORIZONTALnLIGHT VERTICAL AND HORIZONTAL
oEFT HEAVY AND RIGHT VERTICAL LIGHTnRIGHT HEAVY AND LEFT VERTICAL LIGHT
nVERTICAL LIGHT AND HORIZONTAL HEAVYnUP HEAVY AND DOWN HORIZONTAL LIGHT
nDOWN HEAVY AND UP HORIZONTAL LIGHTnVERTICAL HEAVY AND HORIZONTAL LIGHT
nLEFT UP HEAVY AND RIGHT DOWN LIGHTnRIGHT UP HEAVY AND LEFT DOWN LIGHT
nLEFT DOWN HEAVY AND RIGHT UP LIGHTnRIGHT DOWN HEAVY AND LEFT UP LIGHT
nDOWN LIGHT AND UP HORIZONTAL HEAVYnUP LIGHT AND DOWN HORIZONTAL HEAVY
nRIGHT LIGHT AND LEFT VERTICAL HEAVYnLEFT LIGHT AND RIGHT VERTICAL HEAVY
nHEAVY VERTICAL AND HORIZONTALnLIGHT DOUBLE DASH HORIZONTALnHEAVY DOUBLE DASH HORIZONTAL
nLIGHT DOUBLE DASH VERTICALnHEAVY DOUBLE DASH VERTICALnDOUBLE HORIZONTALuVERTICAL
pWN SINGLE AND RIGHT DOUBLEsDOUBLE AND RIGHT SINGLEpUBLE DOWN AND RIGHTpWN SINGLE AND LEFT DOUBLE
sDOUBLE AND LEFT SINGLEpUBLE DOWN AND LEFTnUP SINGLE AND RIGHT DOUBLEqDOUBLE AND RIGHT SINGLE
nDOUBLE UP AND RIGHTnUP SINGLE AND LEFT DOUBLEqDOUBLE AND LEFT SINGLEnDOUBLE UP AND LEFT
nVERTICAL SINGLE AND RIGHT DOUBLEwDOUBLE AND RIGHT SINGLEnDOUBLE VERTICAL AND RIGHT
nVERTICAL SINGLE AND LEFT DOUBLEwDOUBLE AND LEFT SINGLEnDOUBLE VERTICAL AND LEFT
pWN SINGLE AND HORIZONTAL DOUBLEsDOUBLE AND HORIZONTAL SINGLEpUBLE DOWN AND HORIZONTAL
nUP SINGLE AND HORIZONTAL DOUBLEqDOUBLE AND HORIZONTAL SINGLEnDOUBLE UP AND HORIZONTAL
nVERTICAL SINGLE AND HORIZONTAL DOUBLEwDOUBLE AND HORIZONTAL SINGLEnDOUBLE VERTICAL AND HORIZONTAL
nLIGHT ARC DOWN AND RIGHT,LEFTxUP AND LEFT*RIGHTtDIAGONAL UPPER RIGHT TO LOWER LEFT
:LEFT TO LOWER RIGHT(CROSStLEFTtUPtRIGHTtDOWNnHEAVY LEFTtUPtRIGHTtDOWNnLIGHT LEFT AND HEAVY RIGHT
tUP AND HEAVY DOWNnHEAVY LEFT AND LIGHT RIGHTtUP AND LIGHT DOWNaUPPER HALF BLOCK
aLOWER ONE EIGHTH BLOCKkQUARTER BLOCKgTHREE EIGHTHS BLOCKgHALF BLOCKgFIVE EIGHTHS BLOCK
gTHREE QUARTERS BLOCKgSEVEN EIGHTHS BLOCKaFULL BLOCKaLEFT SEVEN EIGHTHS BLOCKfTHREE QUARTERS BLOCK
fFIVE EIGHTHS BLOCKfHALF BLOCKfTHREE EIGHTHS BLOCKfONE QUARTER BLOCKjEIGHTH BLOCKaRIGHT HALF BLOCK
aLIGHT SHADEaMEDIUM SHADEaDARK SHADEaUPPER ONE EIGHTH BLOCKaRIGHT ONE EIGHTH BLOCK
aQUADRANT LOWER LEFTpRIGHTjUPPER LEFTt AND LOWER LEFT AND LOWER RIGHT*RIGHT
yUPPER RIGHT AND LOWER LEFT~R RIGHTpRIGHTu AND LOWER LEFT; AND LOWER RIGHTaBLACK SQUAREaWHITE SQUARE
m WITH ROUNDED CORNERSnCONTAINING BLACK SMALL SQUAREaSQUARE WITH HORIZONTAL FILLmVERTICAL FILL
mORTHOGONAL CROSSHATCH FILLmUPPER LEFT TO LOWER RIGHT FILLsRIGHT TO LOWER LEFT FILL
mDIAGONAL CROSSHATCH FILLaBLACK SMALL SQUAREaWHITE SMALL SQUAREaBLACK RECTANGLEaWHITE RECTANGLE
aBLACK VERTICAL RECTANGLEaWHITE VERTICAL RECTANGLEaBLACK PARALLELOGRAMaWHITE PARALLELOGRAM
aBLACK UP-POINTING TRIANGLEaWHITE UP-POINTING TRIANGLEaBLACK UP-POINTING SMALL TRIANGLE
aWHITE UP-POINTING SMALL TRIANGLEaBLACK RIGHT-POINTING TRIANGLEaWHITE RIGHT-POINTING TRIANGLE
aBLACK RIGHT-POINTING SMALL TRIANGLEaWHITE RIGHT-POINTING SMALL TRIANGLE
aBLACK RIGHT-POINTING POINTERaWHITE RIGHT-POINTING POINTERaBLACK DOWN-POINTING TRIANGLE
aWHITE DOWN-POINTING TRIANGLEaBLACK DOWN-POINTING SMALL TRIANGLEaWHITE DOWN-POINTING SMALL TRIANGLE
aBLACK LEFT-POINTING TRIANGLEaWHITE LEFT-POINTING TRIANGLEaBLACK LEFT-POINTING SMALL TRIANGLE
aWHITE LEFT-POINTING SMALL TRIANGLEaBLACK LEFT-POINTING POINTERaWHITE LEFT-POINTING POINTER
aBLACK DIAMONDaWHITE DIAMONDn CONTAINING BLACK SMALL DIAMONDaFISHEYEaLOZENGEaWHITE CIRCLE
aDOTTED CIRCLEaCIRCLE WITH VERTICAL FILLaBULLSEYEbLACK CIRCLEaCIRCLE WITH LEFT HALF BLACK
mRIGHT HALF BLACKmLOWER HALF BLACKmUPPER HALF BLACKsRIGHT QUADRANT BLACK
mALL BUT UPPER LEFT QUADRANT BLACKaLEFT HALF BLACK CIRCLEaRIGHT HALF BLACK CIRCLEaINVERSE BULLET
iWHITE CIRCLEaUPPER HALF INVERSE WHITE CIRCLEaLOWER HALF INVERSE WHITE CIRCLE
aUPPER LEFT QUADRANT CIRCULAR ARCgRIGHT QUADRANT CIRCULAR ARCaLOWER RIGHT QUADRANT CIRCULAR ARC
gLEFT QUADRANT CIRCULAR ARCaUPPER HALF CIRCLEaLOWER HALF CIRCLEaBLACK LOWER RIGHT TRIANGLE
mLEFT TRIANGLEgUPPER LEFT TRIANGLEmRIGHT TRIANGLEaWHITE BULLETaSQUARE WITH LEFT HALF BLACK
mRIGHT HALF BLACKmUPPER LEFT DIAGONAL HALF BLACKmLOWER RIGHT DIAGONAL HALF BLACK
aWHITE SQUARE WITH VERTICAL BISECTING LINEgUP-POINTING TRIANGLE WITH DOT
aUP-POINTING TRIANGLE WITH LEFT HALF BLACK!RIGHT HALF BLACKaLARGE CIRCLE
aWHITE SQUARE WITH UPPER LEFT QUADRANTsLOWER LEFT QUADRANTyRIGHT QUADRANTsUPPER RIGHT QUADRANT
gCIRCLE WITH UPPER LEFT QUADRANTsLOWER LEFT QUADRANTyRIGHT QUADRANTsUPPER RIGHT QUADRANT
aUPPER LEFT TRIANGLEgRIGHT TRIANGLEaLOWER LEFT TRIANGLEaWHITE MEDIUM SQUAREaBLACK MEDIUM SQUARE
aWHITE MEDIUM SMALL SQUAREaBLACK MEDIUM SMALL SQUAREaLOWER RIGHT TRIANGLEaBLACK SUN WITH RAYSaCLOUD
aUMBRELLAaSNOWMANaCOMETaBLACK STARaWHITE STARaLIGHTNINGaTHUNDERSTORMaSUNaASCENDING NODE
aDESCENDING NODEaCONJUNCTIONaOPPOSITIONaBLACK TELEPHONEaWHITE TELEPHONEaBALLOT BOXk WITH CHECKqX
aSALTIREaUMBRELLA WITH RAIN DROPSaHOT BEVERAGEaWHITE SHOGI PIECEaBLACK SHOGI PIECEaSHAMROCK
aREVERSED ROTATED FLORAL HEART BULLETaBLACK LEFT POINTING INDEXgRIGHT POINTING INDEX
aWHITE LEFT POINTING INDEXgUP POINTING INDEXgRIGHT POINTING INDEXgDOWN POINTING INDEX
aSKULL AND CROSSBONESaCAUTION SIGNaRADIOACTIVE SIGNaBIOHAZARD SIGNaCADUCEUSaANKHaORTHODOX CROSS
aCHI RHObROSS OF LORRAINEjJERUSALEMaSTAR AND CRESCENTaFARSI SYMBOLaADI SHAKTIaHAMMER AND SICKLE
aPEACE SYMBOLaYIN YANGaTRIGRAM FOR HEAVENmLAKEmFIREmTHUNDERmWINDnATERmMOUNTAINmEARTHaWHEEL OF DHARMA
cITE FROWNING FACEgSMILING FACEaBLACK SMILING FACEaWHITE SUN WITH RAYSaFIRST QUARTER MOON
aLAST QUARTER MOONaMERCURYaFEMALE SIGNaEARTHaMALE SIGNaJUPITERaSATURNaURANUSaNEPTUNEaPLUTOaARIES
aTAURUSaGEMINIaCANCERaLEOaVIRGOaLIBRAaSCORPIUSbAGITTARIUSaCAPRICORNaAQUARIUSaPISCESaWHITE CHESS KING
mQUEENmROOKmBISHOPmKNIGHTmPAWNaBLACK CHESS KINGmQUEENmROOKmBISHOPmKNIGHTmPAWNgSPADE SUIT
aWHITE HEART SUITgDIAMOND SUITaBLACK CLUB SUITaWHITE SPADE SUITaBLACK HEART SUITgDIAMOND SUIT
aWHITE CLUB SUITaHOT SPRINGSaQUARTER NOTEaEIGHTH NOTEaBEAMED EIGHTH NOTEShSIXTEENTH NOTES
aMUSIC FLAT SIGNgNATURAL SIGNgSHARP SIGNaWEST SYRIAC CROSSaEAST SYRIAC CROSS
aUNIVERSAL RECYCLING SYMBOLaRECYCLING SYMBOL FOR TYPE-1 PLASTICS!2 PLASTICS!3 PLASTICS!4 PLASTICS
!5 PLASTICS!6 PLASTICS!7 PLASTICSvGENERIC MATERIALSaBLACK UNIVERSAL RECYCLING SYMBOL
aRECYCLED PAPER SYMBOLaPARTIALLY-RECYCLED PAPER SYMBOLbERMANENT PAPER SIGNaWHEELCHAIR SYMBOL
aDIE FACE-1j2j3j4j5j6aWHITE CIRCLE WITH DOT RIGHTsTWO DOTSaBLACK CIRCLE WITH WHITE DOT RIGHT
sTWO WHITE DOTSaMONOGRAM FOR YANGoINaDIGRAM FOR GREATER YANGlLESSER YINtANGlGREATER YINaWHITE FLAG
aBLACK FLAGaHAMMER AND PICKaANCHORaCROSSED SWORDSaSTAFF OF AESCULAPIUSbCALESaALEMBICaFLOWERaGEAR
aSTAFF OF HERMESaATOM SYMBOLaFLEUR-DE-LISaOUTLINED WHITE STARaTHREE LINES CONVERGING RIGHTxLEFT
aWARNING SIGNaHIGH VOLTAGE SIGNaDOUBLED FEMALE SIGNiMALE SIGNaINTERLOCKED FEMALE AND MALE SIGN
aMALE AND FEMALE SIGNfWITH STROKE SIGNrAND MALE AND FEMALE SIGNaVERTICAL MALE WITH STROKE SIGN
aHORIZONTAL MALE WITH STROKE SIGNaMEDIUM WHITE CIRCLEhBLACK CIRCLEhSMALL WHITE CIRCLEbARRIAGE SYMBOL
aDIVORCE SYMBOLaUNMARRIED PARTNERSHIP SYMBOLaCOFFINaFUNERAL URNaNEUTERaCERESaPALLASaJUNOaVESTA
aCHIRONaBLACK MOON LILITHaSEXTILEcMISEXTILEaQUINCUNXaSESQUIQUADRATEbOCCER BALLaBASEBALLaSQUARED KEY
aWHITE DRAUGHTS MANpKINGaBLACK DRAUGHTS MANpKINGaSNOWMAN WITHOUT SNOWbUN BEHIND CLOUDaRAIN
aBLACK SNOWMANaTHUNDER CLOUD AND RAINbURNED WHITE SHOGI PIECEhBLACK SHOGI PIECE
aWHITE DIAMOND IN SQUAREaCROSSING LANESaDISABLED CARaOPHIUCHUSaPICKaCAR SLIDING
aHELMET WITH WHITE CROSSaCIRCLED CROSSING LANESbHAINSaNO ENTRYaALTERNATE ONE-WAY LEFT WAY TRAFFIC
aBLACK TWO-WAY LEFT WAY TRAFFICaWHITE TWO-WAY LEFT WAY TRAFFICaBLACK LEFT LANE MERGE
aWHITE LEFT LANE MERGEaDRIVE SLOW SIGNaHEAVY WHITE DOWN-POINTING TRIANGLEaLEFT CLOSED ENTRY
aSQUARED SALTIREaFALLING DIAGONAL IN WHITE CIRCLE IN BLACK SQUAREaBLACK TRUCK
aRESTRICTED LEFT ENTRY-1w2aASTRONOMICAL SYMBOL FOR URANUS
aHEAVY CIRCLE WITH STROKE AND TWO DOTS ABOVEaPENTAGRAMaRIGHT-HANDED INTERLACED PENTAGRAM
aLEFT-HANDED INTERLACED PENTAGRAMaINVERTED PENTAGRAMaBLACK CROSS ON SHIELDaSHINTO SHRINEaCHURCH
bASTLEaHISTORIC SITEaGEAR WITHOUT HUBj HANDLESaMAP SYMBOL FOR LIGHTHOUSEbOUNTAINaUMBRELLA ON GROUND
aFOUNTAINbLAG IN HOLEbERRYaSAILBOATbQUARE FOUR CORNERSbKIERaICE SKATEaPERSON WITH BALLaTENT
aJAPANESE BANK SYMBOLaHEADSTONE GRAVEYARD SYMBOLaFUEL PUMPaCUP ON BLACK SQUARE
aWHITE FLAG WITH HORIZONTAL MIDDLE BLACK STRIPEaBLACK SAFETY SCISSORSaUPPER BLADE SCISSORS
aBLACK SCISSORSaLOWER BLADE SCISSORSaWHITE SCISSORSgHEAVY CHECK MARKaTELEPHONE LOCATION SIGN
bAPE DRIVEaAIRPLANEaENVELOPEaRAISED FISThHANDaVICTORY HANDaWRITING HANDaLOWER RIGHT PENCILaPENCIL
aUPPER RIGHT PENCILaWHITE NIBaBLACK NIBaCHECK MARKaHEAVY CHECK MARKaMULTIPLICATION X
aHEAVY MULTIPLICATION XaBALLOT XaHEAVY BALLOT XaOUTLINED GREEK CROSSaHEAVY GREEK CROSS
aOPEN CENTRE CROSSaHEAVY OPEN CENTRE CROSSaLATIN CROSSaSHADOWED WHITE LATIN CROSS
aOUTLINED LATIN CROSSaMALTESE CROSSaSTAR OF DAVIDaFOUR TEARDROP-SPOKED ASTERISK
fBALLOON-SPOKED ASTERISKaHEAVY FOUR BALLOON-SPOKED ASTERISKaFOUR CLUB-SPOKED ASTERISK
aBLACK FOUR POINTED STARaWHITE FOUR POINTED STARaSPARKLESbTRESS OUTLINED WHITE STAR
aCIRCLED WHITE STARaOPEN CENTRE BLACK STARaBLACK CENTRE WHITE STARaOUTLINED BLACK STAR
aHEAVY OUTLINED BLACK STARaPINWHEEL STARaSHADOWED WHITE STARaHEAVY ASTERISKaOPEN CENTRE ASTERISK
aEIGHT SPOKED ASTERISKgPOINTED BLACK STARoPINWHEEL STARaSIX POINTED BLACK STAR
aEIGHT POINTED RECTILINEAR BLACK STARaHEAVY EIGHT POINTED RECTILINEAR BLACK STAR
aTWELVE POINTED BLACK STARaSIXTEEN POINTED ASTERISKaTEARDROP-SPOKED ASTERISK
aOPEN CENTRE TEARDROP-SPOKED ASTERISKaHEAVY TEARDROP-SPOKED ASTERISK
aSIX PETALLED BLACK AND WHITE FLORETTEaBLACK FLORETTEaWHITE FLORETTE
aEIGHT PETALLED OUTLINED BLACK FLORETTEaCIRCLED OPEN CENTRE EIGHT POINTED STAR
aHEAVY TEARDROP-SPOKED PINWHEEL ASTERISKaSNOWFLAKEaTIGHT TRIFOLIATE SNOWFLAKE
aHEAVY CHEVRON SNOWFLAKEaSPARKLEaHEAVY SPARKLEaBALLOON-SPOKED ASTERISK
aEIGHT TEARDROP-SPOKED PROPELLER ASTERISKaHEAVY EIGHT TEARDROP-SPOKED PROPELLER ASTERISKaCROSS MARK
aSHADOWED WHITE CIRCLEaNEGATIVE SQUARED CROSS MARKaLOWER RIGHT DROP-SHADOWED WHITE SQUARE
aUPPER RIGHT DROP-SHADOWED WHITE SQUAREaLOWER RIGHT SHADOWED WHITE SQUARE
aUPPER RIGHT SHADOWED WHITE SQUAREaBLACK QUESTION MARK ORNAMENTaWHITE QUESTION MARK ORNAMENT
gEXCLAMATION MARK ORNAMENTaBLACK DIAMOND MINUS WHITE XaHEAVY EXCLAMATION MARK SYMBOL
aLIGHT VERTICAL BARaMEDIUM VERTICAL BARaHEAVY VERTICAL BAR
gSINGLE TURNED COMMA QUOTATION MARK ORNAMENTnCOMMA QUOTATION MARK ORNAMENT
gDOUBLE TURNED COMMA QUOTATION MARK ORNAMENTnCOMMA QUOTATION MARK ORNAMENT
gLOW SINGLE COMMA QUOTATION MARK ORNAMENTkDOUBLE COMMA QUOTATION MARK ORNAMENT
aCURVED STEM PARAGRAPH SIGN ORNAMENTaHEAVY EXCLAMATION MARK ORNAMENTgHEART EXCLAMATION MARK ORNAMENT
gBLACK HEARTaROTATED HEAVY BLACK HEART BULLETaFLORAL HEARTaROTATED FLORAL HEART BULLET
aMEDIUM LEFT PARENTHESIS ORNAMENThRIGHT PARENTHESIS ORNAMENThFLATTENED LEFT PARENTHESIS ORNAMENT
rRIGHT PARENTHESIS ORNAMENThLEFT-POINTING ANGLE BRACKET ORNAMENT
hRIGHT-POINTING ANGLE BRACKET ORNAMENTaHEAVY LEFT-POINTING ANGLE QUOTATION MARK ORNAMENT
gRIGHT-POINTING ANGLE QUOTATION MARK ORNAMENTgLEFT-POINTING ANGLE BRACKET ORNAMENT
gRIGHT-POINTING ANGLE BRACKET ORNAMENTaLIGHT LEFT TORTOISE SHELL BRACKET ORNAMENT
gRIGHT TORTOISE SHELL BRACKET ORNAMENTaMEDIUM LEFT CURLY BRACKET ORNAMENT
hRIGHT CURLY BRACKET ORNAMENTaDINGBAT NEGATIVE CIRCLED DIGIT ONE+TWO,HREE+FOUR,IVE+SIX,EVEN+EIGHT
+NINEzNUMBER TENiCIRCLED SANS-SERIF DIGIT ONE.TWO:HREE.FOUR:IVE.SIX:EVEN.EIGHT.NINE&NUMBER TEN
iNEGATIVE CIRCLED SANS-SERIF DIGIT ONE_TWO|HREE_FOUR|IVE_SIX|EVEN_EIGHT_NINE<NUMBER TEN
aHEAVY WIDE-HEADED RIGHTWARDS ARROWgPLUS SIGNgMINUS SIGNgDIVISION SIGNgSOUTH EAST ARROW
gRIGHTWARDS ARROWgNORTH EAST ARROWaDRAFTING POINT RIGHTWARDS ARROW
aHEAVY ROUND-TIPPED RIGHTWARDS ARROWaTRIANGLE-HEADED RIGHTWARDS ARROW
aHEAVY TRIANGLE-HEADED RIGHTWARDS ARROWaDASHED TRIANGLE-HEADED RIGHTWARDS ARROW
aHEAVY DASHED TRIANGLE-HEADED RIGHTWARDS ARROWaBLACK RIGHTWARDS ARROW
aTHREE-D TOP-LIGHTED RIGHTWARDS ARROWHEADiBOTTOM-LIGHTED RIGHTWARDS ARROWHEAD
aBLACK RIGHTWARDS ARROWHEADaHEAVY BLACK CURVED DOWNWARDS AND RIGHTWARDS ARROW
tUPWARDS AND RIGHTWARDS ARROWaSQUAT BLACK RIGHTWARDS ARROW
aHEAVY CONCAVE-POINTED BLACK RIGHTWARDS ARROWaRIGHT-SHADED WHITE RIGHTWARDS ARROW
aLEFT-SHADED WHITE RIGHTWARDS ARROWaBACK-TILTED SHADOWED WHITE RIGHTWARDS ARROW
aFRONT-TILTED SHADOWED WHITE RIGHTWARDS ARROWaHEAVY LOWER RIGHT-SHADOWED WHITE RIGHTWARDS ARROW
gUPPER RIGHT-SHADOWED WHITE RIGHTWARDS ARROWaNOTCHED LOWER RIGHT-SHADOWED WHITE RIGHTWARDS ARROW
aCURLY LOOPaNOTCHED UPPER RIGHT-SHADOWED WHITE RIGHTWARDS ARROWaCIRCLED HEAVY WHITE RIGHTWARDS ARROW
aWHITE-FEATHERED RIGHTWARDS ARROWaBLACK-FEATHERED SOUTH EAST ARROWqRIGHTWARDS ARROWqNORTH EAST ARROW
aHEAVY BLACK-FEATHERED SOUTH EAST ARROWwRIGHTWARDS ARROWwNORTH EAST ARROW
aTEARDROP-BARBED RIGHTWARDS ARROWaHEAVY TEARDROP-SHANKED RIGHTWARDS ARROW
aWEDGE-TAILED RIGHTWARDS ARROWaHEAVY WEDGE-TAILED RIGHTWARDS ARROWaOPEN-OUTLINED RIGHTWARDS ARROW
aDOUBLE CURLY LOOPaTHREE DIMENSIONAL ANGLEaWHITE TRIANGLE CONTAINING SMALL WHITE TRIANGLE
aPERPENDICULARaOPEN SUBSEThPERSETaLEFT S-SHAPED BAG DELIMITERaRIGHT S-SHAPED BAG DELIMITER
aOR WITH DOT INSIDEaREVERSE SOLIDUS PRECEDING SUBSETaSUPERSET PRECEDING SOLIDUS
aVERTICAL BAR WITH HORIZONTAL STROKEaMATHEMATICAL RISING DIAGONALaLONG DIVISION
aMATHEMATICAL FALLING DIAGONALaSQUARED LOGICAL ANDqORaWHITE DIAMOND WITH CENTRED DOTaAND WITH DOT
aELEMENT OF OPENING UPWARDSaLOWER RIGHT CORNER WITH DOTaUPPER LEFT CORNER WITH DOTaLEFT OUTER JOIN
aRIGHT OUTER JOINaFULL OUTER JOINaLARGE UP TACKgDOWN TACKbEFT AND RIGHT DOUBLE TURNSTILEpTACK
fMULTIMAPbONG RIGHT TACKfLEFT TACKaUP TACK WITH CIRCLE ABOVEaLOZENGE DIVIDED BY HORIZONTAL RULE
aWHITE CONCAVE-SIDED DIAMOND& WITH LEFTWARDS TICK.RIGHTWARDS TICKgSQUARE WITH LEFTWARDS TICK
sRIGHTWARDS TICKaMATHEMATICAL LEFT WHITE SQUARE BRACKETnRIGHT WHITE SQUARE BRACKET
nLEFT ANGLE BRACKETnRIGHT ANGLE BRACKETnLEFT DOUBLE ANGLE BRACKETnRIGHT DOUBLE ANGLE BRACKET
nLEFT WHITE TORTOISE SHELL BRACKETnRIGHT WHITE TORTOISE SHELL BRACKETnLEFT FLATTENED PARENTHESIS
nRIGHT FLATTENED PARENTHESISaUPWARDS QUADRUPLE ARROWaDOWNWARDS QUADRUPLE ARROW
aANTICLOCKWISE GAPPED CIRCLE ARROWaCLOCKWISE GAPPED CIRCLE ARROWaRIGHT ARROW WITH CIRCLED PLUS
aLONG LEFTWARDS ARROWfRIGHTWARDS ARROWfLEFT RIGHT ARROWjWARDS DOUBLE ARROWfRIGHTWARDS DOUBLE ARROW
fLEFT RIGHT DOUBLE ARROWjWARDS ARROW FROM BARfRIGHTWARDS ARROW FROM BAR
fLEFTWARDS DOUBLE ARROW FROM BARfRIGHTWARDS DOUBLE ARROW FROM BARqSQUIGGLE ARROW
aBRAILLE PATTERN BLANKqDOTS-1v2v12v3v13v23v123v4v14v24v124v34v134v234v1234v5v15v25v125v35v135v235
v1235v45v145v245v1245v345v1345v2345v12345v6v16v26v126v36v136v236v1236v46v146v246v1246v346v1346v2346
v12346v56v156v256v1256v356v1356v2356v12356v456v1456v2456v12456v3456v13456v23456v123456v7v17v27v127
v37v137v237v1237v47v147v247v1247v347v1347v2347v12347v57v157v257v1257v357v1357v2357v12357v457v1457
v2457v12457v3457v13457v23457v123457v67v167v267v1267v367v1367v2367v12367v467v1467v2467v12467v3467
v13467v23467v123467v567v1567v2567v12567v3567v13567v23567v123567v4567v14567v24567v124567v34567v134567
v234567v1234567v8v18v28v128v38v138v238v1238v48v148v248v1248v348v1348v2348v12348v58v158v258v1258v358
v1358v2358v12358v458v1458v2458v12458v3458v13458v23458v123458v68v168v268v1268v368v1368v2368v12368v468
v1468v2468v12468v3468v13468v23468v123468v568v1568v2568v12568v3568v13568v23568v123568v4568v14568
v24568v124568v34568v134568v234568v1234568v78v178v278v1278v378v1378v2378v12378v478v1478v2478v12478
v3478v13478v23478v123478v578v1578v2578v12578v3578v13578v23578v123578v4578v14578v24578v124578v34578
v134578v234578v1234578v678v1678v2678v12678v3678v13678v23678v123678v4678v14678v24678v124678v34678
v134678v234678v1234678v5678v15678v25678v125678v35678v135678v235678v1235678v45678v145678v245678
v1245678v345678v1345678v2345678v12345678aRIGHTWARDS TWO-HEADED ARROW WITH VERTICAL STROKE
.DOUBLE VERTICAL STROKEaLEFTWARDS DOUBLE ARROW WITH VERTICAL STROKE
aRIGHTWARDS DOUBLE ARROW WITH VERTICAL STROKEaLEFT RIGHT DOUBLE ARROW WITH VERTICAL STROKE
aRIGHTWARDS TWO-HEADED ARROW FROM BARaLEFTWARDS DOUBLE ARROW FROM BAR
aRIGHTWARDS DOUBLE ARROW FROM BARaDOWNWARDS ARROW WITH HORIZONTAL STROKE
aUPWARDS ARROW WITH HORIZONTAL STROKEiTRIPLE ARROWaDOWNWARDS TRIPLE ARROW
aLEFTWARDS DOUBLE DASH ARROWaRIGHTWARDS DOUBLE DASH ARROWaLEFTWARDS TRIPLE DASH ARROW
aRIGHTWARDS TRIPLE DASH ARROWmWO-HEADED TRIPLE DASH ARROWlARROW WITH DOTTED STEM
aUPWARDS ARROW TO BARaDOWNWARDS ARROW TO BARaRIGHTWARDS ARROW WITH TAIL WITH VERTICAL STROKE
,DOUBLE VERTICAL STROKElTWO-HEADED ARROW WITH TAIL> WITH VERTICAL STROKE|DOUBLE VERTICAL STROKE
aLEFTWARDS ARROW-TAILaRIGHTWARDS ARROW-TAILaLEFTWARDS DOUBLE ARROW-TAILaRIGHTWARDS DOUBLE ARROW-TAIL
aLEFTWARDS ARROW TO BLACK DIAMONDaRIGHTWARDS ARROW TO BLACK DIAMOND
aLEFTWARDS ARROW FROM BAR TO BLACK DIAMONDaRIGHTWARDS ARROW FROM BAR TO BLACK DIAMOND
aNORTH WEST AND SOUTH EAST ARROWgEAST AND SOUTH WEST ARROWgWEST ARROW WITH HOOKgEAST ARROW WITH HOOK
aSOUTH EAST ARROW WITH HOOKgWEST ARROW WITH HOOKaNORTH WEST ARROW AND NORTH EAST ARROW
gEAST ARROW AND SOUTH EAST ARROWaSOUTH EAST ARROW AND SOUTH WEST ARROW
gWEST ARROW AND NORTH WEST ARROWaRISING DIAGONAL CROSSING FALLING DIAGONAL
aFALLING DIAGONAL CROSSING RISING DIAGONALaSOUTH EAST ARROW CROSSING NORTH EAST ARROW
aNORTH EAST ARROW CROSSING SOUTH EAST ARROWaFALLING DIAGONAL CROSSING NORTH EAST ARROW
aRISING DIAGONAL CROSSING SOUTH EAST ARROWaNORTH EAST ARROW CROSSING NORTH WEST ARROW
gWEST ARROW CROSSING NORTH EAST ARROWaWAVE ARROW POINTING DIRECTLY RIGHT
aARROW POINTING RIGHTWARDS THEN CURVING UPWARDS[DOWNWARDSpDOWNWARDS THEN CURVING LEFTWARDS
?RIGHTWARDSaRIGHT-SIDE ARC CLOCKWISE ARROWaLEFT-SIDE ARC ANTICLOCKWISE ARROW
aTOP ARC ANTICLOCKWISE ARROWaBOTTOM ARC ANTICLOCKWISE ARROWaTOP ARC CLOCKWISE ARROW WITH MINUS
iANTICLOCKWISE ARROW WITH PLUSaLOWER RIGHT SEMICIRCULAR CLOCKWISE ARROW
gLEFT SEMICIRCULAR ANTICLOCKWISE ARROWaANTICLOCKWISE CLOSED CIRCLE ARROW
aCLOCKWISE CLOSED CIRCLE ARROWaRIGHTWARDS ARROW ABOVE SHORT LEFTWARDS ARROW
aLEFTWARDS ARROW ABOVE SHORT RIGHTWARDS ARROWaSHORT RIGHTWARDS ARROW ABOVE LEFTWARDS ARROW
aRIGHTWARDS ARROW WITH PLUS BELOWaLEFTWARDS ARROW WITH PLUS BELOWaRIGHTWARDS ARROW THROUGH X
aLEFT RIGHT ARROW THROUGH SMALL CIRCLEaUPWARDS TWO-HEADED ARROW FROM SMALL CIRCLE
aLEFT BARB UP RIGHT BARB DOWN HARPOONkDOWN RIGHT BARB UP HARPOON
aUP BARB RIGHT DOWN BARB LEFT HARPOONiLEFT DOWN BARB RIGHT HARPOON
aLEFT BARB UP RIGHT BARB UP HARPOONaUP BARB RIGHT DOWN BARB RIGHT HARPOON
aLEFT BARB DOWN RIGHT BARB DOWN HARPOONaUP BARB LEFT DOWN BARB LEFT HARPOON
aLEFTWARDS HARPOON WITH BARB UP TO BARaRIGHTWARDS HARPOON WITH BARB UP TO BAR
aUPWARDS HARPOON WITH BARB RIGHT TO BARaDOWNWARDS HARPOON WITH BARB RIGHT TO BAR
aLEFTWARDS HARPOON WITH BARB DOWN TO BARaRIGHTWARDS HARPOON WITH BARB DOWN TO BAR
aUPWARDS HARPOON WITH BARB LEFT TO BARaDOWNWARDS HARPOON WITH BARB LEFT TO BAR
aLEFTWARDS HARPOON WITH BARB UP FROM BARaRIGHTWARDS HARPOON WITH BARB UP FROM BAR
aUPWARDS HARPOON WITH BARB RIGHT FROM BARaDOWNWARDS HARPOON WITH BARB RIGHT FROM BAR
aLEFTWARDS HARPOON WITH BARB DOWN FROM BARaRIGHTWARDS HARPOON WITH BARB DOWN FROM BAR
aUPWARDS HARPOON WITH BARB LEFT FROM BARaDOWNWARDS HARPOON WITH BARB LEFT FROM BAR
aLEFTWARDS HARPOON WITH BARB UP ABOVE LEFTWARDS HARPOON WITH BARB DOWN
aUPWARDS HARPOON WITH BARB LEFT BESIDE UPWARDS HARPOON WITH BARB RIGHT
aRIGHTWARDS HARPOON WITH BARB UP ABOVE RIGHTWARDS HARPOON WITH BARB DOWN
aDOWNWARDS HARPOON WITH BARB LEFT BESIDE DOWNWARDS HARPOON WITH BARB RIGHT
aLEFTWARDS HARPOON WITH BARB UP ABOVE RIGHTWARDS HARPOON WITH BARB UP
(DOWN ABOVE RIGHTWARDS HARPOON WITH BARB DOWN
aRIGHTWARDS HARPOON WITH BARB UP ABOVE LEFTWARDS HARPOON WITH BARB UP
)DOWN ABOVE LEFTWARDS HARPOON WITH BARB DOWNaLEFTWARDS HARPOON WITH BARB UP ABOVE LONG DASH
(DOWN BELOW LONG DASHaRIGHTWARDS HARPOON WITH BARB UP ABOVE LONG DASH)DOWN BELOW LONG DASH
aUPWARDS HARPOON WITH BARB LEFT BESIDE DOWNWARDS HARPOON WITH BARB RIGHT
aDOWNWARDS HARPOON WITH BARB LEFT BESIDE UPWARDS HARPOON WITH BARB RIGHT
aRIGHT DOUBLE ARROW WITH ROUNDED HEADaEQUALS SIGN ABOVE RIGHTWARDS ARROW
aTILDE OPERATOR ABOVE RIGHTWARDS ARROWaLEFTWARDS ARROW ABOVE TILDE OPERATOR
aRIGHTWARDS ARROW ABOVE TILDE OPERATORxALMOST EQUAL TOaLESS-THAN ABOVE LEFTWARDS ARROW
cFTWARDS ARROW THROUGH LESS-THANaGREATER-THAN ABOVE RIGHTWARDS ARROWaSUBSET ABOVE RIGHTWARDS ARROW
aLEFTWARDS ARROW THROUGH SUBSETaSUPERSET ABOVE LEFTWARDS ARROWaLEFT FISH TAILaRIGHT FISH TAIL
aUP FISH TAILaDOWN FISH TAILaTRIPLE VERTICAL BAR DELIMITERaZ NOTATION SPOTlTYPE COLON
aLEFT WHITE CURLY BRACKETaRIGHT WHITE CURLY BRACKETaLEFT WHITE PARENTHESISaRIGHT WHITE PARENTHESIS
aZ NOTATION LEFT IMAGE BRACKETlRIGHT IMAGE BRACKETlLEFT BINDING BRACKETlRIGHT BINDING BRACKET
aLEFT SQUARE BRACKET WITH UNDERBARaRIGHT SQUARE BRACKET WITH UNDERBAR
aLEFT SQUARE BRACKET WITH TICK IN TOP CORNERaRIGHT SQUARE BRACKET WITH TICK IN BOTTOM CORNER
aLEFT SQUARE BRACKET WITH TICK IN BOTTOM CORNERaRIGHT SQUARE BRACKET WITH TICK IN TOP CORNER
aLEFT ANGLE BRACKET WITH DOTaRIGHT ANGLE BRACKET WITH DOTaLEFT ARC LESS-THAN BRACKET
aRIGHT ARC GREATER-THAN BRACKETaDOUBLE LEFT ARC GREATER-THAN BRACKEThRIGHT ARC LESS-THAN BRACKET
aLEFT BLACK TORTOISE SHELL BRACKETaRIGHT BLACK TORTOISE SHELL BRACKETaDOTTED FENCE
aVERTICAL ZIGZAG LINEaMEASURED ANGLE OPENING LEFTaRIGHT ANGLE VARIANT WITH SQUARE
aMEASURED RIGHT ANGLE WITH DOTaANGLE WITH S INSIDEbCUTE ANGLEaSPHERICAL ANGLE OPENING LEFTyUP
aTURNED ANGLEaREVERSED ANGLEaANGLE WITH UNDERBARaREVERSED ANGLE WITH UNDERBAR
aOBLIQUE ANGLE OPENING UPwDOWNaMEASURED ANGLE WITH OPEN ARM ENDING IN ARROW POINTING UP AND RIGHT
~ POINTING UP AND LEFT~ POINTING DOWN AND RIGHT~ POINTING DOWN AND LEFT~ POINTING RIGHT AND UP
~ POINTING LEFT AND UP~ POINTING RIGHT AND DOWN~ POINTING LEFT AND DOWNaREVERSED EMPTY SET
aEMPTY SET WITH OVERBARpSMALL CIRCLE ABOVEpRIGHT ARROW ABOVEpLEFT ARROW ABOVE
aCIRCLE WITH HORIZONTAL BARgD VERTICAL BARiPARALLELiREVERSE SOLIDUSiPERPENDICULAR
g DIVIDED BY HORIZONTAL BAR AND TOP HALF DIVIDED BY VERTICAL BARhWITH SUPERIMPOSED X
gD ANTICLOCKWISE-ROTATED DIVISION SIGNaUP ARROW THROUGH CIRCLEaCIRCLED WHITE BULLETiBULLETiLESS-THAN
iGREATER-THANg WITH SMALL CIRCLE TO THE RIGHTmTWO HORIZONTAL STROKES TO THE RIGHT
aSQUARED RISING DIAGONAL SLASHiFALLING DIAGONAL SLASHiASTERISKiSMALL CIRCLEjQUAREaTWO JOINED SQUARES
bRIANGLE WITH DOT ABOVEoUNDERBARaS IN TRIANGLEaTRIANGLE WITH SERIFS AT BOTTOM
aRIGHT TRIANGLE ABOVE LEFT TRIANGLEaLEFT TRIANGLE BESIDE VERTICAL BAR
aVERTICAL BAR BESIDE RIGHT TRIANGLEaBOWTIE WITH LEFT HALF BLACKmRIGHT HALF BLACKbLACK BOWTIE
aTIMES WITH LEFT HALF BLACKlRIGHT HALF BLACKaWHITE HOURGLASSaBLACK HOURGLASSaLEFT WIGGLY FENCE
aRIGHT WIGGLY FENCEaLEFT DOUBLE WIGGLY FENCEaRIGHT DOUBLE WIGGLY FENCEaINCOMPLETE INFINITY
aTIE OVER INFINITYaINFINITY NEGATED WITH VERTICAL BARaDOUBLE-ENDED MULTIMAP
aSQUARE WITH CONTOURED OUTLINEaINCREASES ASaSHUFFLE PRODUCTaEQUALS SIGN AND SLANTED PARALLEL
, WITH TILDE ABOVEaIDENTICAL TO AND SLANTED PARALLELaGLEICH STARKaTHERMODYNAMIC
aDOWN-POINTING TRIANGLE WITH LEFT HALF BLACK(RIGHT HALF BLACKaBLACK DIAMOND WITH DOWN ARROWgLOZENGE
aWHITE CIRCLE WITH DOWN ARROWaBLACK CIRCLE WITH DOWN ARROWaERROR-BARRED WHITE SQUAREnBLACK SQUARE
nWHITE DIAMONDnBLACK DIAMONDnWHITE CIRCLEnBLACK CIRCLEaRULE-DELAYEDbEVERSE SOLIDUS OPERATOR
aSOLIDUS WITH OVERBARaREVERSE SOLIDUS WITH HORIZONTAL STROKEaBIG SOLIDUSeREVERSE SOLIDUSaDOUBLE PLUS
aTRIPLE PLUSaLEFT-POINTING CURVED ANGLE BRACKETaRIGHT-POINTING CURVED ANGLE BRACKETaTINYaMINY
aN-ARY CIRCLED DOT OPERATORoPLUS OPERATORoTIMES OPERATORgUNION OPERATOR WITH DOT!PLUS
gSQUARE INTERSECTION OPERATORnUNION OPERATORaTWO LOGICAL AND OPERATORmOR OPERATOR
aN-ARY TIMES OPERATORaMODULO TWO SUMaSUMMATION WITH INTEGRALaQUADRUPLE INTEGRAL OPERATOR
aFINITE PART INTEGRALaINTEGRAL WITH DOUBLE STROKEjAVERAGE WITH SLASHaCIRCULATION FUNCTION
aANTICLOCKWISE INTEGRATIONaLINE INTEGRATION WITH RECTANGULAR PATH AROUND POLE
wSEMICIRCULAR PATH AROUND POLErNOT INCLUDING THE POLEaINTEGRAL AROUND A POINT OPERATOR
aQUATERNION INTEGRAL OPERATORaINTEGRAL WITH LEFTWARDS ARROW WITH HOOKoTIMES SIGNoINTERSECTIONoUNION
oOVERBARoUNDERBARaJOINaLARGE LEFT TRIANGLE OPERATORaZ NOTATION SCHEMA COMPOSITIONsPIPINGtROJECTION
aPLUS SIGN WITH SMALL CIRCLE ABOVEpCIRCUMFLEX ACCENT ABOVEpTILDE ABOVEpDOT BELOWpTILDE BELOW
pSUBSCRIPT TWOpBLACK TRIANGLEaMINUS SIGN WITH COMMA ABOVEqDOT BELOWqFALLING DOTSqRISING DOTS
aPLUS SIGN IN LEFT HALF CIRCLEnRIGHT HALF CIRCLEaVECTOR OR CROSS PRODUCT
aMULTIPLICATION SIGN WITH DOT ABOVEzUNDERBARaSEMIDIRECT PRODUCT WITH BOTTOM CLOSEDbMASH PRODUCT
aMULTIPLICATION SIGN IN LEFT HALF CIRCLExRIGHT HALF CIRCLE
aCIRCLED MULTIPLICATION SIGN WITH CIRCUMFLEX ACCENTaMULTIPLICATION SIGN IN DOUBLE CIRCLE
aCIRCLED DIVISION SIGNaPLUS SIGN IN TRIANGLEaMINUS SIGN IN TRIANGLEbULTIPLICATION SIGN IN TRIANGLE
aINTERIOR PRODUCTaRIGHTHAND INTERIOR PRODUCTaZ NOTATION RELATIONAL COMPOSITION
aAMALGAMATION OR COPRODUCTaINTERSECTION WITH DOTaUNION WITH MINUS SIGNlOVERBAR
aINTERSECTION WITH OVERBARsLOGICAL ANDaUNION WITH LOGICAL ORgABOVE INTERSECTION
aINTERSECTION ABOVE UNIONaUNION ABOVE BAR ABOVE INTERSECTIONaINTERSECTION ABOVE BAR ABOVE UNION
aUNION BESIDE AND JOINED WITH UNIONaINTERSECTION BESIDE AND JOINED WITH INTERSECTION
aCLOSED UNION WITH SERIFShINTERSECTION WITH SERIFSaDOUBLE SQUARE INTERSECTIONoUNION
aCLOSED UNION WITH SERIFS AND SMASH PRODUCTaLOGICAL AND WITH DOT ABOVEiOR WITH DOT ABOVE
aDOUBLE LOGICAL ANDpORaTWO INTERSECTING LOGICAL ANDzORaSLOPING LARGE ORoAND
aLOGICAL OR OVERLAPPING LOGICAL ANDiAND WITH MIDDLE STEMiOR WITH MIDDLE STEM
iAND WITH HORIZONTAL DASHiOR WITH HORIZONTAL DASHiAND WITH DOUBLE OVERBARrUNDERBARrDOUBLE UNDERBAR
aSMALL VEE WITH UNDERBARaLOGICAL OR WITH DOUBLE OVERBARxUNDERBARaZ NOTATION DOMAIN ANTIRESTRICTION
lRANGE ANTIRESTRICTIONaEQUALS SIGN WITH DOT BELOWaIDENTICAL WITH DOT ABOVE
aTRIPLE HORIZONTAL BAR WITH DOUBLE VERTICAL STROKE&TRIPLE VERTICAL STROKE
bILDE OPERATOR WITH DOT ABOVEuRISING DOTSaSIMILAR MINUS SIMILARaCONGRUENT WITH DOT ABOVE
aEQUALS WITH ASTERISKaALMOST EQUAL TO WITH CIRCUMFLEX ACCENTbPPROXIMATELY EQUAL OR EQUAL TO
aEQUALS SIGN ABOVE PLUS SIGNaPLUS SIGN ABOVE EQUALS SIGNaEQUALS SIGN ABOVE TILDE OPERATOR
aDOUBLE COLON EQUALaTWO CONSECUTIVE EQUALS SIGNSbHREE CONSECUTIVE EQUALS SIGNS
aEQUALS SIGN WITH TWO DOTS ABOVE AND TWO DOTS BELOWdIVALENT WITH FOUR DOTS ABOVE
aLESS-THAN WITH CIRCLE INSIDEaGREATER-THAN WITH CIRCLE INSIDEaLESS-THAN WITH QUESTION MARK ABOVE
aGREATER-THAN WITH QUESTION MARK ABOVEaLESS-THAN OR SLANTED EQUAL TO
aGREATER-THAN OR SLANTED EQUAL TOaLESS-THAN OR SLANTED EQUAL TO WITH DOT INSIDE
aGREATER-THAN OR SLANTED EQUAL TO WITH DOT INSIDEaLESS-THAN OR SLANTED EQUAL TO WITH DOT ABOVE
aGREATER-THAN OR SLANTED EQUAL TO WITH DOT ABOVEaLESS-THAN OR SLANTED EQUAL TO WITH DOT ABOVE RIGHT
aGREATER-THAN OR SLANTED EQUAL TO WITH DOT ABOVE LEFTaLESS-THAN OR APPROXIMATE
aGREATER-THAN OR APPROXIMATEaLESS-THAN AND SINGLE-LINE NOT EQUAL TO
aGREATER-THAN AND SINGLE-LINE NOT EQUAL TOaLESS-THAN AND NOT APPROXIMATE
aGREATER-THAN AND NOT APPROXIMATEaLESS-THAN ABOVE DOUBLE-LINE EQUAL ABOVE GREATER-THAN
aGREATER-THAN ABOVE DOUBLE-LINE EQUAL ABOVE LESS-THANaLESS-THAN ABOVE SIMILAR OR EQUAL
aGREATER-THAN ABOVE SIMILAR OR EQUALaLESS-THAN ABOVE SIMILAR ABOVE GREATER-THAN
aGREATER-THAN ABOVE SIMILAR ABOVE LESS-THANaLESS-THAN ABOVE GREATER-THAN ABOVE DOUBLE-LINE EQUAL
aGREATER-THAN ABOVE LESS-THAN ABOVE DOUBLE-LINE EQUAL
aLESS-THAN ABOVE SLANTED EQUAL ABOVE GREATER-THAN ABOVE SLANTED EQUAL
aGREATER-THAN ABOVE SLANTED EQUAL ABOVE LESS-THAN ABOVE SLANTED EQUALaSLANTED EQUAL TO OR LESS-THAN
uGREATER-THANuLESS-THAN WITH DOT INSIDEuGREATER-THAN WITH DOT INSIDE
aDOUBLE-LINE EQUAL TO OR LESS-THANyGREATER-THANmSLANTED EQUAL TO OR LESS-THAN,GREATER-THAN
aSIMILAR OR LESS-THANlGREATER-THANiABOVE LESS-THAN ABOVE EQUALS SIGNoGREATER-THAN ABOVE EQUALS SIGN
aDOUBLE NESTED LESS-THANoGREATER-THANoLESS-THAN WITH UNDERBARaGREATER-THAN OVERLAPPING LESS-THAN
nBESIDE LESS-THANaLESS-THAN CLOSED BY CURVEaGREATER-THAN CLOSED BY CURVE
aLESS-THAN CLOSED BY CURVE ABOVE SLANTED EQUALaGREATER-THAN CLOSED BY CURVE ABOVE SLANTED EQUAL
aSMALLER THANaLARGER THANaSMALLER THAN OR EQUAL TOaLARGER THAN OR EQUAL TO
aEQUALS SIGN WITH BUMPY ABOVEaPRECEDES ABOVE SINGLE-LINE EQUALS SIGN
aSUCCEEDS ABOVE SINGLE-LINE EQUALS SIGNaPRECEDES ABOVE SINGLE-LINE NOT EQUAL TO
aSUCCEEDS ABOVE SINGLE-LINE NOT EQUAL TOaPRECEDES ABOVE EQUALS SIGNaSUCCEEDS ABOVE EQUALS SIGN
aPRECEDES ABOVE NOT EQUAL TOaSUCCEEDS ABOVE NOT EQUAL TOaPRECEDES ABOVE ALMOST EQUAL TO
aSUCCEEDS ABOVE ALMOST EQUAL TOaPRECEDES ABOVE NOT ALMOST EQUAL TO
aSUCCEEDS ABOVE NOT ALMOST EQUAL TOaDOUBLE PRECEDEShSUCCEEDSaSUBSET WITH DOTcPERSET WITH DOT
cBSET WITH PLUS SIGN BELOWcPERSET WITH PLUS SIGN BELOWcBSET WITH MULTIPLICATION SIGN BELOW
cPERSET WITH MULTIPLICATION SIGN BELOWcBSET OF OR EQUAL TO WITH DOT ABOVE
cPERSET OF OR EQUAL TO WITH DOT ABOVEcBSET OF ABOVE EQUALS SIGNcPERSET OF ABOVE EQUALS SIGN
cBSET OF ABOVE TILDE OPERATORcPERSET OF ABOVE TILDE OPERATORcBSET OF ABOVE ALMOST EQUAL TO
cPERSET OF ABOVE ALMOST EQUAL TOcBSET OF ABOVE NOT EQUAL TOcPERSET OF ABOVE NOT EQUAL TO
bQUARE LEFT OPEN BOX OPERATORhRIGHT OPEN BOX OPERATORaCLOSED SUBSETjPERSETjBSET OR EQUAL TO
jPERSET OR EQUAL TOaSUBSET ABOVE SUPERSETcPERSET ABOVE SUBSETcBSET ABOVE SUBSET
cPERSET ABOVE SUPERSETjBESIDE SUBSETqAND JOINED BY DASH WITH SUBSETaELEMENT OF OPENING DOWNWARDS
aPITCHFORK WITH TEE TOPaTRANSVERSAL INTERSECTIONaFORKINGaNONFORKINGaSHORT LEFT TACKgDOWN TACK
gUP TACKaPERPENDICULAR WITH SaVERTICAL BAR TRIPLE RIGHT TURNSTILEaDOUBLE VERTICAL BAR LEFT TURNSTILE
aVERTICAL BAR DOUBLE LEFT TURNSTILEaDOUBLE VERTICAL BAR DOUBLE LEFT TURNSTILE
aLONG DASH FROM LEFT MEMBER OF DOUBLE VERTICALaSHORT DOWN TACK WITH OVERBARgUP TACK WITH UNDERBAR
oABOVE SHORT DOWN TACKaDOUBLE DOWN TACKhUP TACKhSTROKE NOT SIGNaREVERSED DOUBLE STROKE NOT SIGN
aDOES NOT DIVIDE WITH REVERSED NEGATION SLASHaVERTICAL LINE WITH CIRCLE ABOVE!BELOW
aDOWN TACK WITH CIRCLE BELOWaPARALLEL WITH HORIZONTAL STROKEoTILDE OPERATOR
aTRIPLE VERTICAL BAR BINARY RELATIONuWITH HORIZONTAL STROKEhCOLON OPERATORhNESTED LESS-THAN
oGREATER-THANaDOUBLE-LINE SLANTED LESS-THAN OR EQUAL TOuGREATER-THAN OR EQUAL TO
aTRIPLE SOLIDUS BINARY RELATIONaLARGE TRIPLE VERTICAL BAR OPERATORaDOUBLE SOLIDUS OPERATOR
aWHITE VERTICAL BARaN-ARY WHITE VERTICAL BARbORTH EAST WHITE ARROWgWEST WHITE ARROW
aSOUTH EAST WHITE ARROWgWEST WHITE ARROWaLEFT RIGHT WHITE ARROWeWARDS BLACK ARROW
aUPWARDS BLACK ARROWaDOWNWARDS BLACK ARROWaNORTH EAST BLACK ARROWgWEST BLACK ARROW
aSOUTH EAST BLACK ARROWgWEST BLACK ARROWaLEFT RIGHT BLACK ARROWaUP DOWN BLACK ARROW
aRIGHTWARDS ARROW WITH TIP DOWNWARDS!UPWARDSaLEFTWARDS ARROW WITH TIP DOWNWARDSzUPWARDS
aSQUARE WITH TOP HALF BLACKmBOTTOM HALF BLACKmUPPER RIGHT DIAGONAL HALF BLACK
mLOWER LEFT DIAGONAL HALF BLACKaDIAMOND WITH LEFT HALF BLACKnRIGHT HALF BLACKnTOP HALF BLACK
nBOTTOM HALF BLACKbOTTED SQUAREaBLACK LARGE SQUAREaWHITE LARGE SQUAREaBLACK VERY SMALL SQUARE
aWHITE VERY SMALL SQUAREaBLACK PENTAGONaWHITE PENTAGONgHEXAGONaBLACK HEXAGON
aHORIZONTAL BLACK HEXAGONaBLACK LARGE CIRCLEgMEDIUM DIAMONDaWHITE MEDIUM DIAMOND
aBLACK MEDIUM LOZENGEaWHITE MEDIUM LOZENGEaBLACK SMALL DIAMONDmLOZENGEaWHITE SMALL LOZENGE
aBLACK HORIZONTAL ELLIPSEaWHITE HORIZONTAL ELLIPSEaBLACK VERTICAL ELLIPSEaWHITE VERTICAL ELLIPSE
aLEFT ARROW WITH SMALL CIRCLEaTHREE LEFTWARDS ARROWSaLEFT ARROW WITH CIRCLED PLUS
bONG LEFTWARDS SQUIGGLE ARROWbEFTWARDS TWO-HEADED ARROW WITH VERTICAL STROKE,DOUBLE VERTICAL STROKE
&FROM BARvTRIPLE DASH ARROWkARROW WITH DOTTED STEMvTAIL WITH VERTICAL STROKE+DOUBLE VERTICAL STROKE
kTWO-HEADED ARROW WITH TAIL< WITH VERTICAL STROKE_DOUBLE VERTICAL STROKEkARROW THROUGH X
aWAVE ARROW POINTING DIRECTLY LEFTaEQUALS SIGN ABOVE LEFTWARDS ARROW
aREVERSE TILDE OPERATOR ABOVE LEFTWARDS ARROWaLEFTWARDS ARROW ABOVE REVERSE ALMOST EQUAL TO
aRIGHTWARDS ARROW THROUGH GREATER-THANzSUPERSETaLEFTWARDS QUADRUPLE ARROWaRIGHTWARDS QUADRUPLE ARROW
bEVERSE TILDE OPERATOR ABOVE RIGHTWARDS ARROWbIGHTWARDS ARROW ABOVE REVERSE ALMOST EQUAL TO
aTILDE OPERATOR ABOVE LEFTWARDS ARROWaLEFTWARDS ARROW ABOVE ALMOST EQUAL TOwREVERSE TILDE OPERATOR
aRIGHTWARDS ARROW ABOVE REVERSE TILDE OPERATORaDOWNWARDS TRIANGLE-HEADED ZIGZAG ARROW
aSHORT SLANTED NORTH ARROWgBACKSLANTED SOUTH ARROWaWHITE MEDIUM STARaBLACK SMALL STAR
aWHITE SMALL STARaBLACK RIGHT-POINTING PENTAGONaWHITE RIGHT-POINTING PENTAGONaHEAVY LARGE CIRCLE
gOVAL WITH OVAL INSIDEgCIRCLE WITH CIRCLE INSIDEmmD SALTIREaSLANTED NORTH ARROW WITH HOOKED HEAD
aBACKSLANTED SOUTH ARROW WITH HOOKED TAILaSLANTED NORTH ARROW WITH HORIZONTAL TAIL
aBACKSLANTED SOUTH ARROW WITH HORIZONTAL TAILbENT ARROW POINTING DOWNWARDS THEN NORTH EAST
aSHORT BENT ARROW POINTING DOWNWARDS THEN NORTH EASTaLEFTWARDS TRIANGLE-HEADED ARROW
aUPWARDS TRIANGLE-HEADED ARROWaRIGHTWARDS TRIANGLE-HEADED ARROWaDOWNWARDS TRIANGLE-HEADED ARROW
aLEFT RIGHT TRIANGLE-HEADED ARROWaUP DOWN TRIANGLE-HEADED ARROWaNORTH WEST TRIANGLE-HEADED ARROW
gEAST TRIANGLE-HEADED ARROWaSOUTH EAST TRIANGLE-HEADED ARROWgWEST TRIANGLE-HEADED ARROW
aLEFTWARDS TRIANGLE-HEADED DASHED ARROWaUPWARDS TRIANGLE-HEADED DASHED ARROW
aRIGHTWARDS TRIANGLE-HEADED DASHED ARROWaDOWNWARDS TRIANGLE-HEADED DASHED ARROW
aCLOCKWISE TRIANGLE-HEADED OPEN CIRCLE ARROWaANTICLOCKWISE TRIANGLE-HEADED OPEN CIRCLE ARROW
aLEFTWARDS TRIANGLE-HEADED ARROW TO BARaUPWARDS TRIANGLE-HEADED ARROW TO BAR
aRIGHTWARDS TRIANGLE-HEADED ARROW TO BARaDOWNWARDS TRIANGLE-HEADED ARROW TO BAR
=2B76aNORTH WEST TRIANGLE-HEADED ARROW TO BARgEAST TRIANGLE-HEADED ARROW TO BAR
aSOUTH EAST TRIANGLE-HEADED ARROW TO BARgWEST TRIANGLE-HEADED ARROW TO BAR
aLEFTWARDS TRIANGLE-HEADED ARROW WITH DOUBLE HORIZONTAL STROKE
aUPWARDS TRIANGLE-HEADED ARROW WITH DOUBLE HORIZONTAL STROKE
aRIGHTWARDS TRIANGLE-HEADED ARROW WITH DOUBLE HORIZONTAL STROKE
aDOWNWARDS TRIANGLE-HEADED ARROW WITH DOUBLE HORIZONTAL STROKEaHORIZONTAL TAB KEYaVERTICAL TAB KEY
aLEFTWARDS TRIANGLE-HEADED ARROW OVER RIGHTWARDS TRIANGLE-HEADED ARROW
aUPWARDS TRIANGLE-HEADED ARROW LEFTWARDS OF DOWNWARDS TRIANGLE-HEADED ARROW
aRIGHTWARDS TRIANGLE-HEADED ARROW OVER LEFTWARDS TRIANGLE-HEADED ARROW
aDOWNWARDS TRIANGLE-HEADED ARROW LEFTWARDS OF UPWARDS TRIANGLE-HEADED ARROW
aLEFTWARDS TRIANGLE-HEADED PAIRED ARROWSaUPWARDS TRIANGLE-HEADED PAIRED ARROWS
aRIGHTWARDS TRIANGLE-HEADED PAIRED ARROWSaDOWNWARDS TRIANGLE-HEADED PAIRED ARROWS
aLEFTWARDS BLACK CIRCLED WHITE ARROWaUPWARDS BLACK CIRCLED WHITE ARROW
aRIGHTWARDS BLACK CIRCLED WHITE ARROWaDOWNWARDS BLACK CIRCLED WHITE ARROW
aANTICLOCKWISE TRIANGLE-HEADED RIGHT U-SHAPED ARROW*BOTTOM U-SHAPED ARROW*LEFT U-SHAPED ARROW
*TOP U-SHAPED ARROWaRETURN LEFThRIGHTaNEWLINE LEFTiRIGHTaFOUR CORNER ARROWS CIRCLING ANTICLOCKWISE
aRIGHTWARDS BLACK ARROW=2B97aSYMBOL FOR TYPE A ELECTRONICS
aTHREE-D TOP-LIGHTED LEFTWARDS EQUILATERAL ARROWHEADiRIGHT-LIGHTED UPWARDS EQUILATERAL ARROWHEAD
iTOP-LIGHTED RIGHTWARDS EQUILATERAL ARROWHEADiLEFT-LIGHTED DOWNWARDS EQUILATERAL ARROWHEAD
aBLACK LEFTWARDS EQUILATERAL ARROWHEADgUPWARDS EQUILATERAL ARROWHEAD
gRIGHTWARDS EQUILATERAL ARROWHEADgDOWNWARDS EQUILATERAL ARROWHEAD
aDOWNWARDS TRIANGLE-HEADED ARROW WITH LONG TIP LEFTWARDS~P RIGHTWARDS
aUPWARDS TRIANGLE-HEADED ARROW WITH LONG TIP LEFTWARDS~RIGHTWARDS
aLEFTWARDS TRIANGLE-HEADED ARROW WITH LONG TIP UPWARDS
aRIGHTWARDS TRIANGLE-HEADED ARROW WITH LONG TIP UPWARDS
aLEFTWARDS TRIANGLE-HEADED ARROW WITH LONG TIP DOWNWARDS
aRIGHTWARDS TRIANGLE-HEADED ARROW WITH LONG TIP DOWNWARDSaBLACK CURVED DOWNWARDS AND LEFTWARDS ARROW
&RIGHTWARDS ARROWnUPWARDS AND LEFTWARDS ARROWzRIGHTWARDS ARROWnLEFTWARDS AND UPWARDS ARROW
nRIGHTWARDS AND UPWARDS ARROWnLEFTWARDS AND DOWNWARDS ARROWnRIGHTWARDS AND DOWNWARDS ARROW
aRIBBON ARROW DOWN LEFTsRIGHTnUP LEFTqRIGHTnLEFT UPnRIGHT UPnLEFT DOWNnRIGHT DOWN
aUPWARDS WHITE ARROW FROM BAR WITH HORIZONTAL BARc ARROWHEAD IN A RECTANGLE BOX
aOVERLAPPING WHITE SQUARESsAND BLACK SQUARESmBLACK SQUARESaBALLOT BOX WITH LIGHT XaCIRCLED XiBOLD X
aBLACK SQUARE CENTREDgDIAMOND CENTREDaTURNED BLACK PENTAGONaHORIZONTAL BLACK OCTAGONaBLACK OCTAGON
gMEDIUM UP-POINTING TRIANGLE CENTREDnDOWN-POINTING TRIANGLE CENTREDnLEFT-POINTING TRIANGLE CENTRED
nRIGHT-POINTING TRIANGLE CENTREDaNEPTUNE FORM TWOaTOP HALF BLACK CIRCLEaBOTTOM HALF BLACK CIRCLE
aLIGHT FOUR POINTED BLACK CUSPaROTATED LIGHT FOUR POINTED BLACK CUSPaWHITE FOUR POINTED CUSP
aROTATED WHITE FOUR POINTED CUSPaSQUARE POSITION INDICATORaUNCERTAINTY SIGNaGROUP MARK
aPLUTO FORM TWOmHREElFOURmIVEaTRANSPLUTOaPROSERPINAaASTRAEAaHYGIEAaPHOLUSaNESSUSaWHITE MOON SELENA
aBLACK DIAMOND ON CROSSaTRUE LIGHT MOON ARTAaCUPIDOaHADESaZEUSaKRONOSaAPOLLONbDMETOSaVULCANUS
aPOSEIDONaLEFT HALF BLACK STARaRIGHT HALF BLACK STARaSTAR WITH LEFT HALF BLACKkRIGHT HALF BLACK
aLEFTWARDS TWO-HEADED ARROW WITH TRIANGLE ARROWHEADS
aUPWARDS TWO-HEADED ARROW WITH TRIANGLE ARROWHEADS
aRIGHTWARDS TWO-HEADED ARROW WITH TRIANGLE ARROWHEADS
aDOWNWARDS TWO-HEADED ARROW WITH TRIANGLE ARROWHEADSaERIS FORM ONEkTWOaSEDNA
aRUSSIAN ASTROLOGICAL SYMBOL VIGINTILE(NOVILE(QUINTILE(BINOVILE(SENTAGON(TREDECILE
aEQUALS SIGN WITH INFINITY BELOWaUNITED SYMBOLaSEPARATED SYMBOLaDOUBLED SYMBOLaPASSED SYMBOL
aREVERSED RIGHT ANGLEaHELLSCHREIBER PAUSE SYMBOLaGLAGOLITIC CAPITAL LETTER AZU!BUKY!VEDE!GLAGOLI
!DOBRO!YESTU!ZHIVETE!DZELO!ZEMLJA!IZHE&NITIAL IZHE&!DJERVI!KAKO!LJUDIJE!MYSLITE!NASHI!ONU!POKOJI
!RITSI!SLOVO!TVRIDO!UKU!FRITU!HERU!OTU!PE!SHTA!TSI!CHRIVI!SHA!YERU)I&ATI!SPIDERY HA!YU!SMALL YUS
; WITH TAIL!YO!IOTATED SMALL YUS!BIG YUS!IOTATED BIG YUS!FITA!IZHITSA!SHTAPIC!TROKUTASTI A
!LATINATE MYSLITE!CAUDATE CHRIVIlSMALL LETTER AZUyBUKYyVEDEyGLAGOLIyDOBROyYESTUyZHIVETEyDZELOyZEMLJA
yIZHEzNITIAL IZHEzyDJERVIyKAKOyLJUDIJEyMYSLITEyNASHIyONUyPOKOJIyRITSIySLOVOyTVRIDOyUKUyFRITUyHERU
yOTUyPEySHTAyTSIyCHRIVIySHAyYERU&IzATIySPIDERY HAyYUySMALL YUS. WITH TAILyYOyIOTATED SMALL YUS
yBIG YUSyIOTATED BIG YUSyFITAyIZHITSAySHTAPICyTROKUTASTI AyLATINATE MYSLITEyCAUDATE CHRIVI
aLATIN CAPITAL LETTER L WITH DOUBLE BARgSMALL LETTER L WITH DOUBLE BAR
gCAPITAL LETTER L WITH MIDDLE TILDEvP WITH STROKEvR WITH TAILgSMALL LETTER A WITH STROKE
tT WITH DIAGONAL STROKEgCAPITAL LETTER H WITH DESCENDERgSMALL LETTER H WITH DESCENDER
gCAPITAL LETTER K WITH DESCENDERgSMALL LETTER K WITH DESCENDERgCAPITAL LETTER Z WITH DESCENDER
gSMALL LETTER Z WITH DESCENDERgCAPITAL LETTER ALPHAvM WITH HOOKvTURNED A)LPHA
gSMALL LETTER V WITH RIGHT HOOKgCAPITAL LETTER W WITH HOOKgSMALL LETTER W WITH HOOKtV WITH CURL
gCAPITAL LETTER HALF HgSMALL LETTER HALF HtTAILLESS PHItE WITH NOTCHtTURNED R WITH TAIL
tO WITH LOW RING INSIDEgLETTER SMALL CAPITAL TURNED EgSUBSCRIPT SMALL LETTER J
aMODIFIER LETTER CAPITAL VaLATIN CAPITAL LETTER S WITH SWASH TAILvZ WITH SWASH TAIL
aCOPTIC CAPITAL LETTER ALFAhSMALL LETTER ALFAhCAPITAL LETTER VIDAhSMALL LETTER VIDA
hCAPITAL LETTER GAMMAhSMALL LETTER GAMMAhCAPITAL LETTER DALDAhSMALL LETTER DALDAhCAPITAL LETTER EIE
hSMALL LETTER EIEhCAPITAL LETTER SOUhSMALL LETTER SOUhCAPITAL LETTER ZATAhSMALL LETTER ZATA
hCAPITAL LETTER HATEhSMALL LETTER HATEhCAPITAL LETTER THETHEhSMALL LETTER THETHE
hCAPITAL LETTER IAUDAhSMALL LETTER IAUDAhCAPITAL LETTER KAPAhSMALL LETTER KAPAhCAPITAL LETTER LAULA
hSMALL LETTER LAULAhCAPITAL LETTER MIhSMALL LETTER MIhCAPITAL LETTER NIhSMALL LETTER NI
hCAPITAL LETTER KSIhSMALL LETTER KSIhCAPITAL LETTER OhSMALL LETTER OhCAPITAL LETTER PI
hSMALL LETTER PIhCAPITAL LETTER ROhSMALL LETTER ROhCAPITAL LETTER SIMAhSMALL LETTER SIMA
hCAPITAL LETTER TAUhSMALL LETTER TAUhCAPITAL LETTER UAhSMALL LETTER UAhCAPITAL LETTER FI
hSMALL LETTER FIhCAPITAL LETTER KHIhSMALL LETTER KHIhCAPITAL LETTER PSIhSMALL LETTER PSI
hCAPITAL LETTER OOUhSMALL LETTER OOUhCAPITAL LETTER DIALECT-P ALEFhSMALL LETTER DIALECT-P ALEF
hCAPITAL LETTER OLD COPTIC AINhSMALL LETTER OLD COPTIC AINhCAPITAL LETTER CRYPTOGRAMMIC EIE
hSMALL LETTER CRYPTOGRAMMIC EIEhCAPITAL LETTER DIALECT-P KAPAhSMALL LETTER DIALECT-P KAPA
hCAPITAL LETTER DIALECT-P NIhSMALL LETTER DIALECT-P NIhCAPITAL LETTER CRYPTOGRAMMIC NI
hSMALL LETTER CRYPTOGRAMMIC NIhCAPITAL LETTER OLD COPTIC OOUhSMALL LETTER OLD COPTIC OOU
hCAPITAL LETTER SAMPIhSMALL LETTER SAMPIhCAPITAL LETTER CROSSED SHEIhSMALL LETTER CROSSED SHEI
hCAPITAL LETTER OLD COPTIC SHEIhSMALL LETTER OLD COPTIC SHEIhCAPITAL LETTER OLD COPTIC ESH
hSMALL LETTER OLD COPTIC ESHhCAPITAL LETTER AKHMIMIC KHEIhSMALL LETTER AKHMIMIC KHEI
hCAPITAL LETTER DIALECT-P HORIhSMALL LETTER DIALECT-P HORIhCAPITAL LETTER OLD COPTIC HORI
hSMALL LETTER OLD COPTIC HORIhCAPITAL LETTER OLD COPTIC HAhSMALL LETTER OLD COPTIC HA
hCAPITAL LETTER L-SHAPED HAhSMALL LETTER L-SHAPED HAhCAPITAL LETTER OLD COPTIC HEI
hSMALL LETTER OLD COPTIC HEIhCAPITAL LETTER OLD COPTIC HAThSMALL LETTER OLD COPTIC HAT
hCAPITAL LETTER OLD COPTIC GANGIAhSMALL LETTER OLD COPTIC GANGIAhCAPITAL LETTER OLD COPTIC DJA
hSMALL LETTER OLD COPTIC DJAhCAPITAL LETTER OLD COPTIC SHIMAhSMALL LETTER OLD COPTIC SHIMA
hCAPITAL LETTER OLD NUBIAN SHIMAhSMALL LETTER OLD NUBIAN SHIMAhCAPITAL LETTER OLD NUBIAN NGI
hSMALL LETTER OLD NUBIAN NGIhCAPITAL LETTER OLD NUBIAN NYIhSMALL LETTER OLD NUBIAN NYI
hCAPITAL LETTER OLD NUBIAN WAUhSMALL LETTER OLD NUBIAN WAUiYMBOL KAIoMI ROoPI ROoSTAUROSoTAU RO
oKHI ROoSHIMA SIMAhCAPITAL LETTER CRYPTOGRAMMIC SHEIhSMALL LETTER CRYPTOGRAMMIC SHEI
hCAPITAL LETTER CRYPTOGRAMMIC GANGIAhSMALL LETTER CRYPTOGRAMMIC GANGIAhCOMBINING NI ABOVE
rSPIRITUS ASPER!LENISiAPITAL LETTER BOHAIRIC KHEIhSMALL LETTER BOHAIRIC KHEI
=2CF9hOLD NUBIAN FULL STOPsDIRECT QUESTION MARKsINDIRECT QUESTION MARKsVERSE DIVIDER
hFRACTION ONE HALFiULL STOPhMORPHOLOGICAL DIVIDERaGEORGIAN SMALL LETTER ANwBANwGANwDONwENwVINwZEN
wTANwINwKANwLASwMANwNARwONwPARwZHARwRAEwSANwTARwUNwPHARwKHARwGHANwQARwSHINwCHINxANwJILwCILxHARwXAN
wJHANwHAExExIEwWEwHARxOE=2D27wYN=2D2DwAEN=2D30aTIFINAGH LETTER YAsBtHsGtHHqBERBER ACADEMY YAJqYAJsD
tHtDuHrEYrAFsKqTUAREG YAKqYAKHHsHqBERBER ACADEMY YAHqTUAREG YAHqYAHHsAsKHqTUAREG YAKHqYAQqTUAREG YAQ
qYIrAZHqAHAGGAR YAZHqTUAREG YAZHqYALsMsNqTUAREG YAGNzNGqYAPrUrARtRsGHqTUAREG YAGHqAYER YAGHqYAStStH
sTtHsCHsTTsVsWsYsZqTAWELLEMET YAZqYAZZrErO=2D6FjMODIFIER LETTER LABIALIZATION MARKjSEPARATOR MARK
=2D7FjCONSONANT JOINERaETHIOPIC SYLLABLE LOAsMOAsROAsSOAtHOAsBOAsTOAsCOAsNOAtYOAsGLOTTAL OAsZOAsDOA
tDOAsJOAsTHOAsCHOAsPHOAtOAsGGWAvIvEEw=2DA0sSSAuUuIuAAuEEvuO=2DA8sCCAuUuIuAAuEEvuO=2DB0sZZAuUuIuAAuEE
vuO=2DB8sCCHAvUvIvAAvEEwvO=2DC0sQYAuUuIuAAuEEvuO=2DC8sKYAuUuIuAAuEEvuO=2DD0sXYAuUuIuAAuEEvuO
=2DD8sGYAuUuIuAAuEEvuO=2DE0aCOMBINING CYRILLIC LETTER BE!VE!GHE!DE!ZHE&E!KA!EL&M&N!O!PE!ER&S!TE!HA
!TSE!CHE!SHA(CHA!FITA!ES-TE!A!IE!DJERV!MONOGRAPH UK!YAT&U!IOTIFIED A!LITTLE YUS!BIG YUS
!IOTIFIED BIG YUSaRIGHT ANGLE SUBSTITUTION MARKERmDOTTED SUBSTITUTION MARKER
aLEFT SUBSTITUTION BRACKETaRIGHT SUBSTITUTION BRACKETaLEFT DOTTED SUBSTITUTION BRACKET
aRIGHT DOTTED SUBSTITUTION BRACKETbAISED INTERPOLATION MARKERhDOTTED INTERPOLATION MARKER
aDOTTED TRANSPOSITION MARKERaLEFT TRANSPOSITION BRACKETaRIGHT TRANSPOSITION BRACKETbAISED SQUARE
aLEFT RAISED OMISSION BRACKETaRIGHT RAISED OMISSION BRACKETaEDITORIAL CORONISaPARAGRAPHOS
aFORKED PARAGRAPHOSaREVERSED FORKED PARAGRAPHOSaHYPODIASTOLEaDOTTED OBELOScWNWARDS ANCORA
aUPWARDS ANCORAaDOTTED RIGHT-POINTING ANGLEcUBLE OBLIQUE HYPHENaINVERTED INTERROBANGaPALM BRANCH
aHYPHEN WITH DIAERESISaTILDE WITH RING ABOVEaLEFT LOW PARAPHRASE BRACKET
aRIGHT LOW PARAPHRASE BRACKETaTILDE WITH DOT ABOVEpBELOWaLEFT VERTICAL BAR WITH QUILL
aRIGHT VERTICAL BAR WITH QUILLaTOP LEFT HALF BRACKETeRIGHT HALF BRACKETaBOTTOM LEFT HALF BRACKET
hRIGHT HALF BRACKETaLEFT SIDEWAYS U BRACKETaRIGHT SIDEWAYS U BRACKETaLEFT DOUBLE PARENTHESIS
aRIGHT DOUBLE PARENTHESISaTWO DOTS OVER ONE DOT PUNCTUATIONaONE DOT OVER TWO DOTS PUNCTUATION
aSQUARED FOUR DOT PUNCTUATIONaFIVE DOT MARKaREVERSED QUESTION MARKaVERTICAL TILDEaRING POINT
aWORD SEPARATOR MIDDLE DOTaTURNED COMMAaRAISED DOThCOMMAaTURNED SEMICOLONaDAGGER WITH LEFT GUARD
mRIGHT GUARDaTURNED DAGGERbOP HALF SECTION SIGNbWO-EM DASHbHREE-EM DASHaSTENOGRAPHIC FULL STOP
aVERTICAL SIX DOTSaWIGGLY VERTICAL LINEaCAPITULUMaDOUBLE HYPHENaREVERSED COMMA
aDOUBLE LOW-REVERSED-9 QUOTATION MARKbASH WITH LEFT UPTURNbOUBLE SUSPENSION MARKaINVERTED LOW KAVYKA
t WITH KAVYKA ABOVEaLOW KAVYKAk WITH DOTaDOUBLE STACKED COMMAcTTED SOLIDUSaTRIPLE DAGGER
aMEDIEVAL COMMAaPARAGRAPHUS MARKbUNCTUS ELEVATUS MARKaCORNISH VERSE DIVIDER
bROSS PATTY WITH RIGHT CROSSBARrLEFT CROSSBARaTIRONIAN SIGN CAPITAL ETaMEDIEVAL EXCLAMATION MARK
jQUESTION MARKaLEFT SQUARE BRACKET WITH STROKEaRIGHT SQUARE BRACKET WITH STROKE
aLEFT SQUARE BRACKET WITH DOUBLE STROKEaRIGHT SQUARE BRACKET WITH DOUBLE STROKE
aTOP HALF LEFT PARENTHESISjRIGHT PARENTHESISaBOTTOM HALF LEFT PARENTHESISmRIGHT PARENTHESIS
aOBLIQUE HYPHEN=2E80aCJK RADICAL REPEATmCLIFFmSECOND ONEtTWOuHREEmPERSONmBOXmTABLEmKNIFE ONEsTWO
mDIVINATIONmSEALnMALL ONEsTWOmLAME ONErTWOsHREErFOURmSNAKEmTHREADmSNOUT ONEsTWOmHEART ONEsTWOnAND
mRAP=2E9BmCHOKEmSUNmMOONmDEATHmMOTHERmCIVILIANmWATER ONEsTWOmFIREmPAW ONEqTWO
mSIMPLIFIED HALF TREE TRUNKmCOWmDOGmJADEmBOLT OF CLOTHmEYEmSPIRIT ONEtTWOmBAMBOOmSILK
mC-SIMPLIFIED SILKmNET ONEqTWOrHREEqFOURmMESHmSHEEPmRAMmEWEmOLDmBRUSH ONEsTWOmMEATnORTARmGRASS ONE
sTWOtHREEmTIGERmCLOTHESmWEST ONErTWOmC-SIMPLIFIED SEEmSIMPLIFIED HORNmHORNmC-SIMPLIFIED SPEECH!HELL
mFOOTmC-SIMPLIFIED CARTmSIMPLIFIED WALKmWALK ONErTWOmCITYn-SIMPLIFIED GOLDmLONG ONErTWO
mC-SIMPLIFIED LONGzGATEmMOUND ONEsTWOmRAINmBLUEmC-SIMPLIFIED TANNED LEATHERzLEAFzWINDzFLYmEAT ONE
qTWOrHREEmC-SIMPLIFIED EATmHEADmC-SIMPLIFIED HORSEmBONEmGHOSTmC-SIMPLIFIED FISHzBIRDzSALT
mSIMPLIFIED WHEATxYELLOWmC-SIMPLIFIED FROGmJ-SIMPLIFIED EVENmC-SIMPLIFIED EVENmJ-SIMPLIFIED TOOTH
mC-SIMPLIFIED TOOTHmJ-SIMPLIFIED DRAGONmC-SIMPLIFIED DRAGONmTURTLEmJ-SIMPLIFIED TURTLE
mC-SIMPLIFIED TURTLE=2F00aKANGXI RADICAL ONEpLINEpDOTpSLASHqECONDpHOOKpTWOpLIDpMANpLEGSpENTERqIGHT
pDOWN BOXpCOVERpICEpTABLEpOPEN BOXpKNIFEpPOWERpWRAPpSPOONpRIGHT OPEN BOXpHIDING ENCLOSUREpTEN
pDIVINATIONpSEALpCLIFFpPRIVATEpAGAINpMOUTHpENCLOSUREqARTHpSCHOLARpGOr SLOWLYpEVENINGpBIGpWOMANpCHILD
pROOFpINCHpSMALLpLAMEpCORPSEpSPROUTpMOUNTAINpRIVERpWORKpONESELFpTURBANpDRYpSHORT THREADpDOTTED CLIFF
pLONG STRIDEpTWO HANDSpSHOOTpBOWpSNOUTpBRISTLEpSTEPpHEARTqALBERDpDOORpHANDpBRANCHpRAPpSCRIPTpDIPPER
pAXEpSQUAREpNOTpSUNqAYpMOONpTREEpLACKpSTOPpDEATHpWEAPONpDO NOTpCOMPAREpFURpCLANpSTEAMpWATERpFIRE
pCLAWpFATHERpDOUBLE XpHALF TREE TRUNKpSLICEpFANGpCOWpDOGpPROFOUNDpJADEpMELONpTILEpSWEETpLIFEpUSE
pFIELDpBOLT OF CLOTHpSICKNESSpDOTTED TENTpWHITEpSKINpDISHpEYEpSPEARpARROWpSTONEqPIRITpTRACKpGRAIN
pCAVEpSTANDpBAMBOOpRICEpSILKpJARpNETpSHEEPpFEATHERpOLDpANDpPLOWpEARpBRUSHpMEATqINISTERpSELFpARRIVE
pMORTARpTONGUEpOPPOSEpBOATpSTOPPINGpCOLORpGRASSpTIGERpINSECTpBLOODpWALK ENCLOSUREpCLOTHESpWESTpSEE
pHORNpSPEECHpVALLEYpBEANpPIGpBADGERpSHELLpREDqUNpFOOTpBODYpCARTpBITTERpMORNINGpWALKpCITYpWINE
pDISTINGUISHpVILLAGEpGOLDpLONGpGATEpMOUNDpSLAVEqHORT TAILED BIRDpRAINpBLUEpWRONGpFACEpLEATHER
pTANNED LEATHERpLEEKpSOUNDpLEAFpWINDpFLYpEATpHEADpFRAGRANTpHORSEpBONEpTALLpHAIRpFIGHT
pSACRIFICIAL WINEpCAULDRONpGHOSTpFISHpBIRDpSALTpDEERpWHEATpHEMPpYELLOWpMILLETpBLACKpEMBROIDERYpFROG
pTRIPODpDRUMpRATpNOSEpEVENpTOOTHpDRAGONpTURTLEpFLUTE
=2FF0aIDEOGRAPHIC DESCRIPTION CHARACTER LEFT TO RIGHT:ABOVE TO BELOW:LEFT TO MIDDLE AND RIGHT
:ABOVE TO MIDDLE AND BELOW:FULL SURROUND:SURROUND FROM ABOVE~ROM BELOW~ROM LEFT~ROM UPPER LEFT
~ROM UPPER RIGHT~ROM LOWER LEFT:OVERLAID=3000mSPACEmCOMMAmFULL STOPaDITTO MARK
aJAPANESE INDUSTRIAL STANDARD SYMBOLaIDEOGRAPHIC ITERATION MARKmCLOSING MARKmNUMBER ZERO
aLEFT ANGLE BRACKETaRIGHT ANGLE BRACKETaLEFT DOUBLE ANGLE BRACKETaRIGHT DOUBLE ANGLE BRACKET
aLEFT CORNER BRACKETaRIGHT CORNER BRACKETaLEFT WHITE CORNER BRACKETaRIGHT WHITE CORNER BRACKET
aLEFT BLACK LENTICULAR BRACKETaRIGHT BLACK LENTICULAR BRACKETaPOSTAL MARKaGETA MARK
aLEFT TORTOISE SHELL BRACKETaRIGHT TORTOISE SHELL BRACKETaLEFT WHITE LENTICULAR BRACKET
aRIGHT WHITE LENTICULAR BRACKETaLEFT WHITE TORTOISE SHELL BRACKETaRIGHT WHITE TORTOISE SHELL BRACKET
aLEFT WHITE SQUARE BRACKETaRIGHT WHITE SQUARE BRACKETaWAVE DASHaREVERSED DOUBLE PRIME QUOTATION MARK
aDOUBLE PRIME QUOTATION MARKaLOW DOUBLE PRIME QUOTATION MARKaPOSTAL MARK FACEaHANGZHOU NUMERAL ONE
rTWOsHREErFOURsIVErSIXsEVENrEIGHTrNINEaIDEOGRAPHIC LEVEL TONE MARKmRISING TONE MARK
mDEPARTING TONE MARKmENTERING TONE MARKaHANGUL SINGLE DOT TONE MARKhDOUBLE DOT TONE MARKaWAVY DASH
aVERTICAL KANA REPEAT MARKvWITH VOICED SOUND MARKvMARK UPPER HALFvWITH VOICED SOUND MARK UPPER HALF
vMARK LOWER HALFaCIRCLED POSTAL MARKaIDEOGRAPHIC TELEGRAPH LINE FEED SEPARATOR SYMBOL
aHANGZHOU NUMERAL TENsWENTYsHIRTYaVERTICAL IDEOGRAPHIC ITERATION MARKaMASU MARK
aPART ALTERNATION MARKaIDEOGRAPHIC VARIATION INDICATORmHALF FILL SPACE=3041aHIRAGANA LETTER SMALL A
qAqSMALL IqIqSMALL UqUqSMALL EqEqSMALL OqOqKAqGAqKIqGIqKUqGUqKEqGEqKOqGOqSAqZAqSIqZIqSUqZUqSEqZEqSO
qZOqTAqDAqTIqDIqSMALL TUqTUqDUqTEqDEqTOqDOqNArIrUrErOqHAqBAqPAqHIqBIqPIqHUqBUqPUqHEqBEqPEqHOqBOqPO
qMArIrUrErOqSMALL YAqYAqSMALL YUqYUqSMALL YOqYOqRArIrUrErOqSMALL WAqWArIrErOqNqVUqSMALL KAxE
=3099aCOMBINING KATAKANA-HIRAGANA VOICED SOUND MARK(SEMI-VOICED SOUND MARK
aKATAKANA-HIRAGANA VOICED SOUND MARKsSEMI-VOICED SOUND MARKaHIRAGANA ITERATION MARK
jVOICED ITERATION MARKjDIGRAPH YORIaKATAKANA-HIRAGANA DOUBLE HYPHENi LETTER SMALL AqAqSMALL IqI
qSMALL UqUqSMALL EqEqSMALL OqOqKAqGAqKIqGIqKUqGUqKEqGEqKOqGOqSAqZAqSIqZIqSUqZUqSEqZEqSOqZOqTAqDAqTI
qDIqSMALL TUqTUqDUqTEqDEqTOqDOqNArIrUrErOqHAqBAqPAqHIqBIqPIqHUqBUqPUqHEqBEqPEqHOqBOqPOqMArIrUrErO
qSMALL YAqYAqSMALL YUqYUqSMALL YOqYOqRArIrUrErOqSMALL WAqWArIrErOqNqVUqSMALL KAxEqVArIrErO
jMIDDLE DOTi-HIRAGANA PROLONGED SOUND MARKi ITERATION MARKjVOICED ITERATION MARKjDIGRAPH KOTO
=3105aBOPOMOFO LETTER BqPqMqFqDqTqNqLqGqKqHqJqQqXqZHqCHqSHqRqZqCqSqAqOqErHqAIqEIqAUqOUqANqENqANGqENG
rRqIqUqIUqVqNGqGNqIHqO WITH DOT ABOVEqNN=3131aHANGUL LETTER KIYEOKoSSANGKIYEOKoKIYEOK-SIOSoNIEUN
t-CIEUCuHIEUHoTIKEUToSSANGTIKEUToRIEULt-KIYEOKuMIEUMuPIEUPuSIOSuTHIEUTHuPHIEUPHuHIEUHoMIEUMoPIEUP
oSSANGPIEUPoPIEUP-SIOSoSIOSpSANGSIOSoIEUNGoCIEUCoSSANGCIEUCoCHIEUCHoKHIEUKHoTHIEUTHoPHIEUPHoHIEUHoA
pEoYAqEoEOpoYEOqoOoWAqEoOEoYOoUoWEOqpIoYUoEUoYIoIhFILLERhLETTER SSANGNIEUNoNIEUN-TIKEUTuSIOSuPANSIOS
oRIEUL-KIYEOK-SIOSuTIKEUTuPIEUP-SIOSvANSIOSuYEORINHIEUHoMIEUM-PIEUPuSIOSuPANSIOSoKAPYEOUNMIEUM
oPIEUP-KIYEOKuTIKEUTuSIOS-KIYEOKzTIKEUTuCIEUCuTHIEUTHoKAPYEOUNPIEUPwSSANGPIEUPoSIOS-KIYEOKtNIEUN
tTIKEUTtPIEUPtCIEUCoPANSIOSoSSANGIEUNGoYESIEUNGw-SIOSxPANSIOSoKAPYEOUNPHIEUPHoSSANGHIEUHoYEORINHIEUH
pO-YAtErIpU-YEOtrIoARAEAtE=3190aIDEOGRAPHIC ANNOTATION LINKING MARKxREVERSE MARKxONE MARKxTWO MARK
yHREE MARKxFOUR MARKxTOP MARKxMIDDLE MARKxBOTTOM MARKxFIRST MARKxSECOND MARKxTHIRD MARKxFOURTH MARK
xHEAVEN MARKxEARTH MARKxMAN MARKaBOPOMOFO LETTER BUqZIqJIqGUqEErNNqOOrNNqIRqANNqINNqUNNqIMqNGGqAINN
rUNNrMqOMrNGqINNNjFINAL LETTER PwTwKwHjLETTER GHqLHqZYjFINAL LETTER GjLETTER GWqKWqOEqAH
aCJK STROKE TlWGlXGlBXGlSWlHZZnGmPmZWGlSZWGlHZTnZPmPWGmZWnZZlNlHlSlPlSPlDlHZmGlSZmWZmTmGlPDmZlTNlSZZ
mWGlHXWGmZZZGlPGlQ=31F0aKATAKANA LETTER SMALL KUwSIxUwTOwNUwHAxIxUxExOwMUwRAxIxUxExO
aPARENTHESIZED HANGUL KIYEOKvNIEUNvTIKEUTvRIEULvMIEUMvPIEUPvSIOSvIEUNGvCIEUCwHIEUCHvKHIEUKHvTHIEUTH
vPHIEUPHvHIEUHvKIYEOK AvNIEUN AvTIKEUT AvRIEUL AvMIEUM AvPIEUP AvSIOS AvIEUNG AvCIEUC AwHIEUCH A
vKHIEUKH AvTHIEUTH AvPHIEUPH AvHIEUH AvCIEUC UoKOREAN CHARACTER OJEON, HU=3220oIDEOGRAPH ONEyTWO
zHREEyFOURzIVEySIXzEVENyEIGHTyNINEyTENyMOONyFIREyWATERzOODyMETALyEARTHySUNzTOCKyHAVEySOCIETYyNAME
ySPECIALyFINANCIALyCONGRATULATIONyLABORyREPRESENTyCALLySTUDYzUPERVISEyENTERPRISEyRESOURCEyALLIANCE
yFESTIVALyRESTySELFyREACHaCIRCLED IDEOGRAPH QUESTIONsKINDERGARTENsSCHOOLsKOTO
iNUMBER TEN ON BLACK SQUAREqWENTY ON BLACK SQUAREqHIRTY ON BLACK SQUAREpFORTY ON BLACK SQUARE
qIFTY ON BLACK SQUAREpSIXTY ON BLACK SQUAREqEVENTY ON BLACK SQUAREpEIGHTY ON BLACK SQUARE
aPARTNERSHIP SIGNaCIRCLED NUMBER TWENTY ONEwTWOxHREEwFOURxIVEwSIXxEVENwEIGHTwNINEqHIRTYv ONEwTWO
xHREEwFOURxIVEiHANGUL KIYEOKpNIEUNpTIKEUTpRIEULpMIEUMpPIEUPpSIOSpIEUNGpCIEUCqHIEUCHpKHIEUKHpTHIEUTH
pPHIEUPHpHIEUHpKIYEOK ApNIEUN ApTIKEUT ApRIEUL ApMIEUM ApPIEUP ApSIOS ApIEUNG ApCIEUC AqHIEUCH A
pKHIEUKH ApTHIEUTH ApPHIEUPH ApHIEUH AiKOREAN CHARACTER CHAMKOzJUEUIiHANGUL IEUNG U
aKOREAN STANDARD SYMBOLaCIRCLED IDEOGRAPH ONEsTWOtHREEsFOURtIVEsSIXtEVENsEIGHTsNINEsTENsMOONsFIRE
sWATERtOODsMETALsEARTHsSUNtTOCKsHAVEsSOCIETYsNAMEsSPECIALsFINANCIALsCONGRATULATIONsLABORsSECRETsMALE
sFEMALEsSUITABLEsEXCELLENTsPRINTsATTENTIONsITEMsRESTsCOPYuRRECTsHIGHsCENTREsLOWtEFTsRIGHTsMEDICINE
sRELIGIONsSTUDYtUPERVISEsENTERPRISEsRESOURCEsALLIANCEsNIGHTiNUMBER THIRTY SIXxEVENwEIGHTwNINEpFORTY
u ONEvTWOwHREEvFOURwIVEvSIXwEVENvEIGHTvNINEqIFTYaIDEOGRAPHIC TELEGRAPH SYMBOL FOR JANUARY.FEBRUARY
.MARCH.APRIL.MAY.JUNE;LY.AUGUST.SEPTEMBER.OCTOBER.NOVEMBER.DECEMBERaSQUARE HGhERGiV
aLIMITED LIABILITY SIGNaCIRCLED KATAKANA ArIrUrErOrKAsIsUsEsOrSAsIsUsEsOrTAsIsUsEsOrNAsIsUsEsOrHAsI
sUsEsOrMAsIsUsEsOrYAsUsOrRAsIsUsEsOrWAsIsEsOaSQUARE ERA NAME REIWAhAPAATOiRUHUAiNPEAiARUhININGUjTI
hUONhESUKUUDOiEKAAhONSUiOMUhKAIRIjRATTOkORIIhGARONjNMAiIGAjNIIhKYURIIhGIRUDAAhKIROlGURAMUlMEETORU
lWATTOhGURAMUnTONhKURUZEIROkOONEiEESUiORUNAjOPOhSAIKURUjNTIIMUiIRINGUiENTIlOhDAASUiESIiORUhTONhNANO
iOTTOhHAITUhPAASENTOkTUhBAARERUhPIASUTORUjKURUkOhBIRUhHUARADDOjIITOhBUSSYERUhHURANiEKUTAARUhPESO
jNIHIhHERUTUhPENSUjEZIhBEETAhPOINTOhBORUTOhHONhPONDOhHOORUkNhMAIKUROkRUjHHAjRUKUjNSYONiIKURONjRI
lBAARUiEGAlTONjETORUhYAADOkRUiUANhRITTORUjRAiUPIIjUBURUiEMUjNTOGENhWATTO
aIDEOGRAPHIC TELEGRAPH SYMBOL FOR HOUR ZERO?ONE?TWO[HREE?FOUR[IVE?SIX[EVEN?EIGHT?NINE?TEN?ELEVEN
?TWELVE[HIRTEEN?FOURTEEN[IFTEEN?SIXTEEN[EVENTEEN?EIGHTEEN?NINETEEN?TWENTY~-ONE~-TWO~-THREE~-FOUR
aSQUARE HPAhDAhAUhBARhOVhPChDMj SQUAREDkCUBEDhIUhERA NAME HEISEIqSYOUWAqTAISYOUqMEIZIhCORPORATION
hPA AMPShNAhMU AiAhKAiBhMBhGBhCALhKCALhPFhNFhMU FkGiGhKGhHZhKHZhMHZhGHZhTHZhMU LiLhDLhKLhFMhNMhMU M
iMhCMhKMhMM SQUAREDhCM SQUAREDhM SQUAREDhKM SQUAREDhMM CUBEDhCM CUBEDhM CUBEDhKM CUBEDhM OVER S
p SQUAREDhPAhKPAhMPAhGPAhRADk OVER Sr SQUAREDhPShNShMU SiShPVhNVhMU ViVhKVhMV MEGAhPWhNWhMU WiWhKW
hMW MEGAhK OHMhM OHMhAMhBQhCCiDi OVER KGiOhDBhGYhHAiPhINhKKiM CAPITALiThLMiNiOGiXhMB SMALLiILiOLhPH
iMiPMiRhSRiVhWBhV OVER MhA OVER MaIDEOGRAPHIC TELEGRAPH SYMBOL FOR DAY ONE>TWO?HREE>FOUR?IVE>SIX
?EVEN>EIGHT>NINE>TEN>ELEVEN>TWELVE?HIRTEEN>FOURTEEN?IFTEEN>SIXTEEN?EVENTEEN>EIGHTEEN>NINETEEN>TWENTY
|-ONE~TWO~THREE~FOUR~FIVE~SIX~SEVEN~EIGHT~NINE?HIRTY|-ONEaSQUARE GAL
=4DC0aHEXAGRAM FOR THE CREATIVE HEAVENrRECEPTIVE EARTHnDIFFICULTY AT THE BEGINNINGnYOUTHFUL FOLLY
nWAITINGnCONFLICTnTHE ARMYnHOLDING TOGETHERnSMALL TAMINGnTREADINGnPEACEnSTANDSTILLnFELLOWSHIP
nGREAT POSSESSIONnMODESTYnENTHUSIASMnFOLLOWINGnWORK ON THE DECAYEDnAPPROACHnCONTEMPLATION
nBITING THROUGHnGRACEnSPLITTING APARTnRETURNnINNOCENCEnGREAT TAMINGnMOUTH CORNERS
nGREAT PREPONDERANCEnTHE ABYSMAL WATERrCLINGING FIREnINFLUENCEnDURATIONnRETREATnGREAT POWERnPROGRESS
nDARKENING OF THE LIGHTnTHE FAMILYnOPPOSITIONoBSTRUCTIONnDELIVERANCEpCREASEnINCREASEnBREAKTHROUGH
nCOMING TO MEETnGATHERING TOGETHERnPUSHING UPWARDnOPPRESSIONnTHE WELLnREVOLUTIONnTHE CAULDRON
rAROUSING THUNDERrKEEPING STILL MOUNTAINnDEVELOPMENTnTHE MARRYING MAIDENnABUNDANCEnTHE WANDERER
rGENTLE WINDrJOYOUS LAKEnDISPERSIONnLIMITATIONnINNER TRUTHnSMALL PREPONDERANCEnAFTER COMPLETION
nBEFORE COMPLETION=A000aYI SYLLABLE ITnXnnPnEToXooPmATnXnnPmUOXooPmOTnXnnPmEXnmWUmBIToXooPoETpXppP
nAToXooPnUOXppPnOToXooPnEXooPnUToXooPoRXpnYToXooPoRXpmPIToXooPoEXppPnAToXooPnUOXppPnOToXooPnUToXooP
oRXpnYToXooPoRXpmBBITpXppPpETqXqqPoATpXppPoUOXqqPoOTpXppPoEXppPoUTpXppPpRXqoYTpXppPmNBITpXppPpEXqqP
oATpXppPoOTpXppPoUTpXppPpRXqoYTpXppPpRXqmHMITpXppPpEXqqPoATpXppPoUOXqqPoOTpXppPoUTpXppPpRXqoYXppPpRX
qmMIToXooPoEXppPnAToXooPnUOTpXppPnOToXooPnEXonUToXooPoRXpnYToXooPmFIToXooPnAToXooPnOXooPnUToXooPoRXp
nYToXooPmVIToXooPoETpXppPnAToXooPnOToXooPnEXoPnUToXooPoRXpnYToXooPoRXpmDIToXooPoEXppPnAToXooPnUOXp
nOToXooPnEXooPnUToXooPoRXpmTIToXooPoEXppPnAToXooPnUOTpXppPnOToXooPnEXooPnUToXooPoRXpmDDITpXppPpEXqqP
oATpXppPoUOXqqPoOTpXppPoEXppPoUTpXppPpRXqmNDITpXppPpEXqoATpXppPoOTpXppPoEXppPoUTpXppPpRXqmHNITpXppP
pETqXqqPoATpXppPoUOXqoOTpXpPoEXppPoUTmNIToXooPoEXppPnAXooPnUOXppPnOToXooPnEXooPnUToXooPoRXpmHLITpXp
pPpEXqqPoATpXppPoUOXqqPoOXppPoEXppPoUTpXppPpRXqoYTpXppPpRXqmLIToXooPoETpXppPnAToXooPnUOTpXppPnOToXo
oPnEXooPnUToXooPoRXpnYToXooPoRXpmGIToXooPoETpXppPnAToXooPnUOTpXppPnOToXooPnEToXooPnUToXooPoRXpmKIToX
ooPoEXppPnAToXooPnUOXppPnOToXooPnEToXooPnUToXooPoRXpmGGITpXppEXqqPoATpXppPoUOTqXqqPoOTpXppPoETpXppP
oUTpXppPpRXqmMGIEXqoATpXppPoUOXqqPoOTpXppPoEXppPoUTpXppPpRXqmHXITpXppPpETqXqqPoATpXppPoUOTqXqqPoOTpX
ppPoEXppPmNGIEXqqPoATpXppPoUOTqXqoOTpXppPoEXppPmHIToEXpnAToXooPnUOTpXppPnOToXooPnEXooPmWAToXooPnUOXp
pPnOXooPnEXooPmZIToXooPoEXppPnAToXooPnUOXppPnOToXooPnEXooPnUToXooPoRXpnYToXooPoRXpmCIToXooPoETpXppP
nAToXooPnUOXppPnOToXooPnEXooPnUToXooPoRXpnYToXooPoRXpmZZITpXppPpETqXqqPoATpXppPoOXppPoEXppPoUXppPpRX
qoYTpXppPpRXqmNZITpXppPpEXqqPoATpXppPoUOXqoOXpPoEXpoUXppPpRXqoYTpXppPpRXqmSIToXooPoEXppPnAToXooPnUOX
ppPnOToXooPnEXooPnUToXooPoRXpnYToXooPoRXpnSITpXppPpEXqqPoATpXppPoOTpXppPoEXppPoUTpXppPoYTpXppPpRXq
mZHATpXppPoUOXqqPoOTpXppPoETpXppPoUTpXppPpRXqoYTpXppPpRXqmCHATpXppPoUOTqXqqPoOTpXppPoETpXppPoUXppP
pRXqoYTpXppPpRXqmRRAXpoUOXqoOTpXppPoETpXppPoUTpXppPpRXqoYTpXppPpRXqmNRATpXppPoOXppPoETpXppPoUTpXppP
pRXqoYTpXppPpRXqmSHATpXppPoUOXqqPoOTpXppPoETpXppPoUTpXppPpRXqoYTpXppPpRXqmRAToXooPnUOXppPnOToXooPnEX
ooPnUToXooPoRXpnYToXooPoRXpmJIToXooPoETpXppPnUOTpXppPnOToXooPnUToXooPoRXpnYToXooPoRXpmQIToXooPoETpXp
pPnUOTpXppPnOToXooPnUToXooPoRXpnYToXooPoRXpmJJITpXppPpETqXqqPoUOXqqPoOTpXppPoUTpXppPpRXqoYTpXppP
mNJITpXppPpETqXqqPoUOXqoOTpXppPoUXppPpRXqoYTpXppPpRXqnYITpXppPpETqXqqPoUOXqqPoOTpXppPoUTpXppPmXIToXo
oPoETpXppPnUOXpnOToXooPnYToXooPoRXpmYIToXooPoETpXppPnUOTpXppPnOToXooPnUToXooPoRXpnYToXooPoRXp
=A490dRADICAL QOTlLIlKITlNYIPlCYPlSSIlGGOPmEPlMIlHXITlLYRlBBUTlMOPlYOlPUTlHXUOlTATlGAlZUPlCYTlDDUR
lBURlGGUOlNYOPlTUlOPlJJUTlZOTlPYTlHMOlYITlVURlSHYlVEPlZAlJOlNZUPlJJYlGOTlJJIElWOlDUlSHURlLIElCYmUOP
mIPlHXOPlSHATlZURlSHOPlCHElZZIETlNBIElKE=A4D0aLISU LETTER BAmPAnHAmDAmTAnHAmGAmKAnHAmJAmCAnHAmDZA
mTSAoHAmMAmNAmLAmSAmZHAnAmNGAmHAmXAmHHAmFAmWAmSHAmYAmGHAmAnEmEnUmImOmUnEnHmOEmTONE MYA TIrNA PO
rMYA CYAvBOvNAvJEUfPUNCTUATION COMMArFULL STOPaVAI SYLLABLE EEpNnHEEnWEEqNnPEEnBHEEoEEnMBEEnKPEE
nMGBEEnGBEEnFEEnVEEnTEEoHEEnDHEEpHEEnLEEnREEnDEEnNDEEnSEEoHEEnZEEoHEEnCEEnJEEnNJEEnYEEnKEEnNGGEEnGEE
nMEEnNEEoYEEnIoNnHIpNnWIpNnPInBHIoInMBInKPInMGBInGBInFInVInTIoHInDHIpHInLInRInDInNDInSIoHInZIoHInCI
nJInNJInYInKInNGGInGInMInNIoYInAoNnNGANnHApNnWApNnPAnBHAoAnMBAnKPAqNnMGBAnGBAnFAnVAnTAoHAnDHApHAnLA
nRAnDAnNDAnSAoHAnZAoHAnCAnJAnNJAnYAnKApNnNGGAnGAnMAnNAoYAnOOpNnHOOnWOOqNnPOOnBHOOoOOnMBOOnKPOOnMGBOO
nGBOOnFOOnVOOnTOOoHOOnDHOOpHOOnLOOnROOnDOOnNDOOnSOOoHOOnZOOoHOOnCOOnJOOnNJOOnYOOnKOOnNGGOOnGOOnMOO
nNOOoYOOnUoNnHUpNnWUpNnPUnBHUoUnMBUnKPUnMGBUnGBUnFUnVUnTUoHUnDHUpHUnLUnRUnDUnNDUnSUoHUnZUoHUnCUnJU
nNJUnYUnKUnNGGUnGUnMUnNUoYUnOoNnNGONnHOpNnWOpNnPOnBHOoOnMBOnKPOnMGBOnGBOqNnFOnVOnTOoHOnDHOpHOnLOnRO
nDOnNDOnSOoHOnZOoHOnCOnJOnNJOnYOnKOnNGGOnGOnMOnNOoYOnEoNnNGENnHEpNnWEpNnPEnBHEoEnMBEnKPEqNnMGBEnGBE
qNnFEnVEnTEoHEnDHEpHEnLEnREnDEnNDEnSEoHEnZEoHEnCEnJEnNJEnYEnKEnNGGErNnGEpNnMEnNEoYEoGnLENGTHENER
eCOMMAeFULL STOPeQUESTION MARKeSYLLABLE NDOLE FAtKAtSOOgMBOL FEENGlKEENGlTINGlNIIlBANGlFAAlTAAlDANG
mOONGlKUNGlTONGlDO-OlJONGeDIGIT ZEROkONEkTWOlHREEkFOURlIVEkSIXlEVENkEIGHTkNINEeSYLLABLE NDOLE MAtDO
=A640aCYRILLIC CAPITAL LETTER ZEMLYAjSMALL LETTER ZEMLYAjCAPITAL LETTER DZELOjSMALL LETTER DZELO
jCAPITAL LETTER REVERSED DZEjSMALL LETTER REVERSED DZEjCAPITAL LETTER IOTAjSMALL LETTER IOTA
jCAPITAL LETTER DJERVjSMALL LETTER DJERVjCAPITAL LETTER MONOGRAPH UKjSMALL LETTER MONOGRAPH UK
jCAPITAL LETTER BROAD OMEGAjSMALL LETTER BROAD OMEGAjCAPITAL LETTER NEUTRAL YER
jSMALL LETTER NEUTRAL YERjCAPITAL LETTER YERU WITH BACK YERjSMALL LETTER YERU WITH BACK YER
jCAPITAL LETTER IOTIFIED YATjSMALL LETTER IOTIFIED YATjCAPITAL LETTER REVERSED YU
jSMALL LETTER REVERSED YUjCAPITAL LETTER IOTIFIED AjSMALL LETTER IOTIFIED A
jCAPITAL LETTER CLOSED LITTLE YUSjSMALL LETTER CLOSED LITTLE YUSjCAPITAL LETTER BLENDED YUS
jSMALL LETTER BLENDED YUSjCAPITAL LETTER IOTIFIED CLOSED LITTLE YUS
jSMALL LETTER IOTIFIED CLOSED LITTLE YUSjCAPITAL LETTER YNjSMALL LETTER YN
jCAPITAL LETTER REVERSED TSEjSMALL LETTER REVERSED TSEjCAPITAL LETTER SOFT DEjSMALL LETTER SOFT DE
jCAPITAL LETTER SOFT ELjSMALL LETTER SOFT ELjCAPITAL LETTER SOFT EMjSMALL LETTER SOFT EM
jCAPITAL LETTER MONOCULAR OjSMALL LETTER MONOCULAR OjCAPITAL LETTER BINOCULAR O
jSMALL LETTER BINOCULAR OjCAPITAL LETTER DOUBLE MONOCULAR OjSMALL LETTER DOUBLE MONOCULAR O
jLETTER MULTIOCULAR ObOMBINING CYRILLIC VZMETtTEN MILLIONS SIGNtHUNDRED MILLIONS SIGN
tTHOUSAND MILLIONS SIGNaSLAVONIC ASTERISKaCOMBINING CYRILLIC LETTER UKRAINIAN IE!I!YI!U!HARD SIGN
!YERU!SOFT SIGN!OMEGAtKAVYKAtPAYEROKbYRILLIC KAVYKAjPAYEROKjCAPITAL LETTER DWEjSMALL LETTER DWE
jCAPITAL LETTER DZWEjSMALL LETTER DZWEjCAPITAL LETTER ZHWEjSMALL LETTER ZHWEjCAPITAL LETTER CCHE
jSMALL LETTER CCHEjCAPITAL LETTER DZZEjSMALL LETTER DZZEjCAPITAL LETTER TE WITH MIDDLE HOOK
jSMALL LETTER TE WITH MIDDLE HOOKjCAPITAL LETTER TWEjSMALL LETTER TWEjCAPITAL LETTER TSWE
jSMALL LETTER TSWEjCAPITAL LETTER TSSEjSMALL LETTER TSSEjCAPITAL LETTER TCHEjSMALL LETTER TCHE
jCAPITAL LETTER HWEjSMALL LETTER HWEjCAPITAL LETTER SHWEjSMALL LETTER SHWEjCAPITAL LETTER DOUBLE O
jSMALL LETTER DOUBLE OjCAPITAL LETTER CROSSED OjSMALL LETTER CROSSED O
aMODIFIER LETTER CYRILLIC HARD SIGNzSOFT SIGNaCOMBINING CYRILLIC LETTER EF!IOTIFIED EaBAMUM LETTER A
nKAnUnKUnEEnREEnTAEnOnNYInInLAnPAnRIIpEEnLEEEEnMEEEEnTAAnNDAAoJAEMnMnSUUnMUnSHIIoIoHEUXoEUXnKYEEoET
nNUAEpoJUAEnYOQnSHUnYUQoAnNSHAnKEUXnPEUXnNJEEoTEEnPUEnWUEnPEEnFEEnRUnLUnMInNInREUXoAEnKENnNGKWAENpGA
pAnSHOnPUAEnFUoOMnWAnNAnLInPInLOQnKOnMBENnRENnMENoAnTInKInMOoBAAnTETnKPAnTENnNTUUnSAMBAnFAAMAEnKOVUU
pGHOMgCOMBINING MARK KOQNDONvTUKWENTISgNJAEMLIgFULL STOPgCOLONiMMAgSEMICOLONgQUESTION MARK
=A700aMODIFIER LETTER CHINESE TONE YIN PING*ANG PING*IN SHANG*ANG SHANG*IN QU*ANG QU*IN RU*ANG RU
qEXTRA-HIGH DOTTED TONE BARqHIGH DOTTED TONE BARqMID DOTTED TONE BARqLOW DOTTED TONE BAR
qEXTRA-LOW DOTTED TONE BARwHIGH DOTTED LEFT-STEM TONE BARqHIGH DOTTED LEFT-STEM TONE BAR
qMID DOTTED LEFT-STEM TONE BARqLOW DOTTED LEFT-STEM TONE BARqEXTRA-LOW DOTTED LEFT-STEM TONE BAR
wHIGH LEFT-STEM TONE BARqHIGH LEFT-STEM TONE BARqMID LEFT-STEM TONE BARqLOW LEFT-STEM TONE BAR
qEXTRA-LOW LEFT-STEM TONE BARqDOT VERTICAL BARuSLASHuHORIZONTAL BARqLOWER RIGHT CORNER ANGLE
qRAISED UP ARROWxDOWN ARROWxEXCLAMATION MARKxINVERTED EXCLAMATION MARKqLOW INVERTED EXCLAMATION MARK
qSTRESS AND HIGH TONE&LOW TONEaLATIN CAPITAL LETTER EGYPTOLOGICAL ALEF
gSMALL LETTER EGYPTOLOGICAL ALEFgCAPITAL LETTER EGYPTOLOGICAL AINgSMALL LETTER EGYPTOLOGICAL AIN
gCAPITAL LETTER HENGgSMALL LETTER HENGgCAPITAL LETTER TZgSMALL LETTER TZgCAPITAL LETTER TRESILLO
gSMALL LETTER TRESILLOgCAPITAL LETTER CUATRILLOgSMALL LETTER CUATRILLO
gCAPITAL LETTER CUATRILLO WITH COMMAgSMALL LETTER CUATRILLO WITH COMMAgLETTER SMALL CAPITAL F&S
gCAPITAL LETTER AAgSMALL LETTER AAgCAPITAL LETTER AOgSMALL LETTER AOgCAPITAL LETTER AU
gSMALL LETTER AUgCAPITAL LETTER AVgSMALL LETTER AVgCAPITAL LETTER AV WITH HORIZONTAL BAR
gSMALL LETTER AV WITH HORIZONTAL BARgCAPITAL LETTER AYgSMALL LETTER AY
gCAPITAL LETTER REVERSED C WITH DOTgSMALL LETTER REVERSED C WITH DOTgCAPITAL LETTER K WITH STROKE
gSMALL LETTER K WITH STROKEgCAPITAL LETTER K WITH DIAGONAL STROKE
gSMALL LETTER K WITH DIAGONAL STROKEgCAPITAL LETTER K WITH STROKE AND DIAGONAL STROKE
gSMALL LETTER K WITH STROKE AND DIAGONAL STROKEgCAPITAL LETTER BROKEN LgSMALL LETTER BROKEN L
gCAPITAL LETTER L WITH HIGH STROKEgSMALL LETTER L WITH HIGH STROKE
gCAPITAL LETTER O WITH LONG STROKE OVERLAYgSMALL LETTER O WITH LONG STROKE OVERLAY
gCAPITAL LETTER O WITH LOOPgSMALL LETTER O WITH LOOPgCAPITAL LETTER OOgSMALL LETTER OO
gCAPITAL LETTER P WITH STROKE THROUGH DESCENDERgSMALL LETTER P WITH STROKE THROUGH DESCENDER
gCAPITAL LETTER P WITH FLOURISHgSMALL LETTER P WITH FLOURISHgCAPITAL LETTER P WITH SQUIRREL TAIL
gSMALL LETTER P WITH SQUIRREL TAILgCAPITAL LETTER Q WITH STROKE THROUGH DESCENDER
gSMALL LETTER Q WITH STROKE THROUGH DESCENDERgCAPITAL LETTER Q WITH DIAGONAL STROKE
gSMALL LETTER Q WITH DIAGONAL STROKEgCAPITAL LETTER R ROTUNDAgSMALL LETTER R ROTUNDA
gCAPITAL LETTER RUM ROTUNDAgSMALL LETTER RUM ROTUNDAgCAPITAL LETTER V WITH DIAGONAL STROKE
gSMALL LETTER V WITH DIAGONAL STROKEgCAPITAL LETTER VYgSMALL LETTER VYgCAPITAL LETTER VISIGOTHIC Z
gSMALL LETTER VISIGOTHIC ZgCAPITAL LETTER THORN WITH STROKEgSMALL LETTER THORN WITH STROKE
gCAPITAL LETTER THORN WITH STROKE THROUGH DESCENDERgSMALL LETTER THORN WITH STROKE THROUGH DESCENDER
gCAPITAL LETTER VENDgSMALL LETTER VENDgCAPITAL LETTER ETgSMALL LETTER ETgCAPITAL LETTER IS
gSMALL LETTER ISgCAPITAL LETTER CONgSMALL LETTER CONaMODIFIER LETTER USaLATIN SMALL LETTER DUMtLUM
tMUMtNUMtRUMgLETTER SMALL CAPITAL RUMgSMALL LETTER TUMtUMgCAPITAL LETTER INSULAR D
gSMALL LETTER INSULAR DgCAPITAL LETTER INSULAR FgSMALL LETTER INSULAR FgCAPITAL LETTER INSULAR G
vTURNED INSULAR GgSMALL LETTER TURNED INSULAR GgCAPITAL LETTER TURNED LgSMALL LETTER TURNED L
gCAPITAL LETTER INSULAR RgSMALL LETTER INSULAR RgCAPITAL LETTER INSULAR SgSMALL LETTER INSULAR S
gCAPITAL LETTER INSULAR TgSMALL LETTER INSULAR TaMODIFIER LETTER LOW CIRCUMFLEX ACCENTqCOLON
qSHORT EQUALS SIGNaLATIN CAPITAL LETTER SALTILLOgSMALL LETTER SALTILLOgCAPITAL LETTER TURNED H
gSMALL LETTER L WITH RETROFLEX HOOK AND BELTgLETTER SINOLOGICAL DOTgCAPITAL LETTER N WITH DESCENDER
gSMALL LETTER N WITH DESCENDERgCAPITAL LETTER C WITH BARgSMALL LETTER C WITH BAR!PALATAL HOOK
tH WITH PALATAL HOOKgCAPITAL LETTER B WITH FLOURISHgSMALL LETTER B WITH FLOURISH
gCAPITAL LETTER F WITH STROKEgSMALL LETTER F WITH STROKEgCAPITAL LETTER VOLAPUK AE
gSMALL LETTER VOLAPUK AEgCAPITAL LETTER VOLAPUK OEgSMALL LETTER VOLAPUK OEgCAPITAL LETTER VOLAPUK UE
gSMALL LETTER VOLAPUK UEgCAPITAL LETTER G WITH OBLIQUE STROKEgSMALL LETTER G WITH OBLIQUE STROKE
gCAPITAL LETTER K WITH OBLIQUE STROKEgSMALL LETTER K WITH OBLIQUE STROKE
gCAPITAL LETTER N WITH OBLIQUE STROKEgSMALL LETTER N WITH OBLIQUE STROKE
gCAPITAL LETTER R WITH OBLIQUE STROKEgSMALL LETTER R WITH OBLIQUE STROKE
gCAPITAL LETTER S WITH OBLIQUE STROKEgSMALL LETTER S WITH OBLIQUE STROKEgCAPITAL LETTER H WITH HOOK
vREVERSED OPEN EvSCRIPT GvL WITH BELTvSMALL CAPITAL IgLETTER SMALL CAPITAL QgCAPITAL LETTER TURNED K
(TvJ WITH CROSSED-TAILvCHIvBETAgSMALL LETTER BETAgCAPITAL LETTER OMEGAgSMALL LETTER OMEGA
gCAPITAL LETTER U WITH STROKEgSMALL LETTER U WITH STROKEgCAPITAL LETTER GLOTTAL A
gSMALL LETTER GLOTTAL AgCAPITAL LETTER GLOTTAL IgSMALL LETTER GLOTTAL IgCAPITAL LETTER GLOTTAL U
gSMALL LETTER GLOTTAL UgCAPITAL LETTER OLD POLISH OgSMALL LETTER OLD POLISH O
gCAPITAL LETTER ANGLICANA WgSMALL LETTER ANGLICANA WgCAPITAL LETTER C WITH PALATAL HOOKvS WITH HOOK
vZ WITH PALATAL HOOKvD WITH SHORT STROKE OVERLAYgSMALL LETTER D WITH SHORT STROKE OVERLAY
gCAPITAL LETTER S WITH SHORT STROKE OVERLAYgSMALL LETTER S WITH SHORT STROKE OVERLAY
=A7D0gCAPITAL LETTER CLOSED INSULAR GgSMALL LETTER CLOSED INSULAR G=A7D3tDOUBLE THORN=A7D5!WYNN
gCAPITAL LETTER MIDDLE SCOTS SgSMALL LETTER MIDDLE SCOTS SgCAPITAL LETTER SIGMOID S
gSMALL LETTER SIGMOID S=A7F2aMODIFIER LETTER CAPITAL CyFyQaLATIN CAPITAL LETTER REVERSED HALF H
gSMALL LETTER REVERSED HALF HgEPIGRAPHIC LETTER SIDEWAYS IaMODIFIER LETTER CAPITAL H WITH STROKE
qSMALL LIGATURE OEaLATIN LETTER SMALL CAPITAL TURNED MgEPIGRAPHIC LETTER REVERSED F.PyINVERTED M
z LONGAyARCHAIC MaSYLOTI NAGRI LETTER AuInSIGN DVISVARAnLETTER UuEuOnSIGN HASANTAnLETTER KOvHOuGOvHO
nSIGN ANUSVARAnLETTER COvHOuJOvHOuTTOwHOuDDOwHOuTOvHOuDOvHOuNOuPOvHOuBOvHOuMOuROuLOuRROuSOuHO
nVOWEL SIGN AyIyUyEyOOnPOETRY MARK-1z2z3z4nSIGN ALTERNATE HASANTA
=A830aNORTH INDIC FRACTION ONE QUARTERzHALFvTHREE QUARTERSvONE SIXTEENTHzEIGHTHvTHREE SIXTEENTHS
mQUARTER MARKmPLACEHOLDER MARKmRUPEE MARKmQUANTITY MARK=A840aPHAGS-PA LETTER KArHAqGAqNGAqCArHAqJA
qNYAqTArHAqDAqNAqPArHAqBAqMAqTSAsHAqDZAqWAqZHArAqSMALL AqYAqRAqLAqSHArAqHAqAqIqUqEqOqQAqXAqFAqGGAqEE
jSUBJOINED LETTER WA!YAjLETTER TTAsHAqDDAqNNAqALTERNATE YAqVOICELESS SHAvD HAqASPIRATED FA
jSUBJOINED LETTER RAlPERFIXED LETTER RAjLETTER CANDRABINDUjSINGLE HEAD MARKjDOUBLE HEAD MARK
jMARK SHADoDOUBLE SHAD=A880aSAURASHTRA SIGN ANUSVARAqVISARGAlLETTER AtAsItIsUtUsVOCALIC R&R!L&LsEtE
sAIsOtOsAUsKAtHAsGAtHAsNGAsCAtHAsJAtHAsNYAsTTAuHAsDDAuHAsNNAsTAtHAsDAtHAsNAsPAtHAsBAtHAsMAsYAsRAsLA
sVAsSHAtSAtAsHAsLLAlCONSONANT SIGN HAARUlVOWEL SIGN AAwIxIwUxUwVOCALIC R+R*L+LwExEwAIwOxOwAU
lSIGN VIRAMAqCANDRABINDU=A8CElDANDAmOUBLE DANDAmIGIT ZEROrONErTWOsHREErFOURsIVErSIXsEVENrEIGHTrNINE
=A8E0aCOMBINING DEVANAGARI DIGIT ZERO&ONE&TWO(HREE&FOUR(IVE&SIX(EVEN&EIGHT&NINEvLETTER A(U(KA(NA(PA
(RA(VIvSIGN AVAGRAHAaDEVANAGARI SIGN SPACING CANDRABINDUqCANDRABINDU VIRAMA
qDOUBLE CANDRABINDU VIRAMAqCANDRABINDU TWO)HREE(AVAGRAHAqPUSHPIKAlGAP FILLERlCARETlHEADSTROKE
lSIGN SIDDHAMlJAIN OMlLETTER AYlVOWEL SIGN AYaKAYAH LI DIGIT ZEROpONEpTWOqHREEpFOURqIVEpSIXqEVEN
pEIGHTpNINEjLETTER KArHAqGAqNGAqSArHAqZAqNYAqTAqHTAqNAqPArHAqMAqDAqBAqRAqYAqLAqWAqTHAqHAqVAqCAqAqOE
qIqOOjVOWEL UEpEpUpEEpOjTONE PLOPHUoCALYAt PLOPHUjSIGN CWIoSHYAaREJANG LETTER KAoGAoNGAoTAoDAoNAoPA
oBAoMAoCAoJAoNYAoSAoRAoLAoYAoWAoHAoMBAoNGGApDApYJAoAhVOWEL SIGN IsUsEsAIsOsAUsEUtAhCONSONANT SIGN NG
xwRwHhVIRAMA=A95FhSECTION MARKaHANGUL CHOSEONG TIKEUT-MIEUMxPIEUPxSIOSxCIEUCqRIEUL-KIYEOK
wSSANGKIYEOKwTIKEUTwSSANGTIKEUTwMIEUMwPIEUPwSSANGPIEUPwKAPYEOUNPIEUPwSIOSwCIEUCwKHIEUKHqMIEUM-KIYEOK
wTIKEUTwSIOSqPIEUP-SIOS-THIEUTHwKHIEUKHwHIEUHqSSANGSIOS-PIEUPqIEUNG-RIEULwHIEUHqSSANGCIEUC-HIEUH
vTHIEUTHqPHIEUPH-HIEUHqHIEUH-SIOSqSSANGYEORINHIEUH=A980aJAVANESE SIGN PANYANGGAoCECAKoLAYARoWIGNYAN
jLETTER AqI KAWIrrIqUqPA CEREKqNGA LELETz RASWADIqEqAIqOqKAs SASAKtMURDAqGAs MURDAqNGAqCAs MURDAqJA
qNYA MURDAqJA MAHAPRANAqNYAqTTAt MAHAPRANAqDDAt MAHAPRANAqNA MURDAqTAs MURDAqDAs MAHAPRANAqNAqPA
s MURDAqBAs MURDAqMAqYAqRAs AGUNGqLAqWAqSA MURDAuAHAPRANAsqHAjSIGN CECAK TELUjVOWEL SIGN TARUNG
vOLONGuWULUy MELIKuSUKUy MENDUTuTALINGuDIRGA MUREuPEPETjCONSONANT SIGN KERETyPENGKALyCAKRAjPANGKON
jLEFT RERENGGANjRIGHT RERENGGANjPADA ANDAPoMADYAoLUHURoWINDUoPANGKAToLINGSApUNGSIoADEGs ADEGoPISELEH
jTURNED PADA PISELEH=A9CFjPANGRANGKEPjDIGIT ZEROpONEpTWOqHREEpFOURqIVEpSIXqEVENpEIGHTpNINE
=A9DEjPADA TIRTA TUMETESoISEN-ISENaMYANMAR LETTER SHAN GHAuCHAuJHAuNNAuBHAiSIGN SHAN SAW
iMODIFIER LETTER SHAN REDUPLICATIONiLETTER TAI LAING NYAzFAzGA!HAzJA!HAzDDA&HAzNNA
iTAI LAING DIGIT ZEROyONEyTWOzHREEyFOURzIVEySIXzEVENyEIGHTyNINEiLETTER TAI LAING LLAzDA!HAzBA!HA
=AA00aCHAM LETTER AmImUmEmAImOmKAnHAmGAnHAmNGUEoAmCHAoHAmJAnHAmNHUEoAoJAmTAnHAmDAnHAmNUEnAmDDAmPAnPA
nHAmBAnHAmMUEnAmBBAmYAmRAmLAmVAmSSAnAmHAfVOWEL SIGN AAqIrIqEIqUqOErqAIrUqUEfCONSONANT SIGN YAuRAuLA
uWA=AA40fLETTER FINAL KsGsNGfCONSONANT SIGN FINAL NGfLETTER FINAL CHsTsNsPsYsRsLsSS
fCONSONANT SIGN FINAL M!H=AA50fDIGIT ZEROlONElTWOmHREElFOURmIVElSIXmEVENlEIGHTlNINE
=AA5CfPUNCTUATION SPIRALrDANDAsOUBLE DANDArTRIPLE DANDAaMYANMAR LETTER KHAMTI GAwCAxHAwJAxHAwNYAwTTA
yHAwDDAyHAxHAwNAwSAwHAxHAwFAiMODIFIER LETTER KHAMTI REDUPLICATIONiLETTER KHAMTI XAwZAwRA
jOGOGRAM KHAMTI OAYyQNyHMiSYMBOL AITON EXCLAMATIONvONEvTWOiLETTER AITON RAiSIGN PAO KAREN TONE
nTAI LAING TONE-2(5iLETTER SHWE PALAUNG CHA(SHAaTAI VIET LETTER LOW KOqHIGH KOqLOW KHOqHIGH KHO
qLOW KHHOqHIGH KHHOqLOW GOqHIGH GOqLOW NGOqHIGH NGOqLOW COqHIGH COqLOW CHOqHIGH CHOqLOW SOqHIGH SO
qLOW NYOqHIGH NYOqLOW DOqHIGH DOqLOW TOqHIGH TOqLOW THOqHIGH THOqLOW NOqHIGH NOqLOW BOqHIGH BO
qLOW POqHIGH POqLOW PHOqHIGH PHOqLOW FOqHIGH FOqLOW MOqHIGH MOqLOW YOqHIGH YOqLOW ROqHIGH ROqLOW LO
qHIGH LOqLOW VOqHIGH VOqLOW HOqHIGH HOqLOW OqHIGH OjMAI KANGjVOWEL AApIpUEqpEpOjMAI KHITjVOWEL IA
pUEAqApAUEqYqNqMjTONE MAI EKsNUENGsTHOsSONG=AADBjSYMBOL KONqNUENGqSAMqHO HOIqKOI KOI
aMEETEI MAYEK LETTER EuOuCHAuNYAuTTAwHAuDDAwHAuNNAuSHAvSAnVOWEL SIGN IIyUUyAAIzUzAUnCHEIKHAN
nAHANG KHUDAMoNJInSYLLABLE REPETITION MARKnWORD REPETITION MARKnVOWEL SIGN VISARGAoIRAMA
=AB01aETHIOPIC SYLLABLE TTHUvIvAAvEEwvO=AB09sDDHUvIvAAvEEwvO=AB11tZUuIuAAuEEvuO=AB20sCCHHAwUwIwAAwEE
xwO=AB28sBBAuUuIuAAuEEvuO=AB30aLATIN SMALL LETTER BARRED ALPHAtA REVERSED-SCHWAtBLACKLETTER E
uARRED EtE WITH FLOURISHtLENIS FtSCRIPT G WITH CROSSED-TAILtL WITH INVERTED LAZY S
!DOUBLE MIDDLE TILDE!MIDDLE RINGtM WITH CROSSED-TAILtN WITH CROSSED-TAILtENG WITH CROSSED-TAIL
tBLACKLETTER O, WITH STROKEtOPEN O WITH STROKEtINVERTED OEtTURNED OE WITH STROKE:HORIZONTAL STROKE
& OPEN-O: WITH STROKEtSTIRRUP RgLETTER SMALL CAPITAL R WITH RIGHT LEGgSMALL LETTER R WITHOUT HANDLE
tDOUBLE RtR WITH CROSSED-TAILtDOUBLE R WITH CROSSED-TAILtSCRIPT R& WITH RINGtBASELINE ESH
tU WITH SHORT RIGHT LEGvBAR WITH SHORT RIGHT LEGuItTURNED UItU WITH LEFT HOOKtCHI
w WITH LOW RIGHT RING,LEFT SERIFtX WITH LOW RIGHT RING(NG LEFT LEG[ AND LOW RIGHT RING]WITH SERIF
tY WITH SHORT RIGHT LEGaMODIFIER BREVE WITH INVERTED BREVEjLETTER SMALL HENGwL WITH INVERTED LAZY S
)MIDDLE TILDEwU WITH LEFT HOOKaLATIN SMALL LETTER SAKHA YATtIOTIFIED EtOPEN OEtUOtINVERTED ALPHA
aGREEK LETTER SMALL CAPITAL OMEGAaLATIN SMALL LETTER DZ DIGRAPH WITH RETROFLEX HOOK
tTS DIGRAPH WITH RETROFLEX HOOKuURNED R WITH MIDDLE TILDEaMODIFIER LETTER SMALL TURNED WqLEFT TACK
qRIGHT TACK=AB70aCHEROKEE SMALL LETTER AwEwIwOwUwVwGAwKAwGExIxOxUxVwHAxExIxOxUxVwLAxExIxOxUxVwMAxExI
xOxUwNAwHNAwNAHxExIxOxUxVwQUAyEyIyOyUyVwSAxxExIxOxUxVwDAwTAwDEwTEwDIwTIwDOxUxVxLAwTLAyEyIyOyUyVxSAyE
yIyOyUyVwWAxExIxOxUxVwYAaMEETEI MAYEK LETTER KOKuSAMuLAIuMITuPAuNAuCHILuTILuKHOUuNGOUuTHOUuWAIuYANG
uHUKuUNuIuPHAMuATIYAuGOKuJHAMuRAIuBAuJILuDILuGHOUuDHOUuBHAMuKOK LONSUMuLAI LONSUMuMIT LONSUM
uPA LONSUMuNA LONSUMuTIL LONSUMuNGOU LONSUMuI LONSUMnVOWEL SIGN ONAPyINAPyANAPyYENAPySOUNAPyUNAP
yCHEINAPyNUNGnCHEIKHEInLUM IYEKnAPUN IYEK=ABF0nDIGIT ZEROtONEtTWOuHREEtFOURuIVEtSIXuEVENtEIGHTtNINE
=D7B0aHANGUL JUNGSEONG O-YEOtO-IrYO-AvEuEOrU-YEOtI-IrYU-AEuOrEU-AuEOvuOrI-YA-OvEuEOvtO-ItYOuUtI
rARAEA-AxE=D7CBiONGSEONG NIEUN-RIEULxCHIEUCHrSSANGTIKEUT(-PIEUPrTIKEUT-PIEUPySIOS(-KIYEOKyCIEUC
zHIEUCHyTHIEUTHrRIEUL-SSANGKIYEOKxKIYEOK-HIEUHrSSANGRIEUL-KHIEUKHrRIEUL-MIEUM-HIEUHxPIEUP-TIKEUT
)PHIEUPHxYESIEUNGzORINHIEUH-HIEUHrKAPYEOUNRIEULrMIEUM-NIEUNxSSANGNIEUNrSSANGMIEUMrMIEUM-PIEUP-SIOS
xCIEUCrPIEUP-TIKEUTxRIEUL-PHIEUPHxMIEUMrSSANGPIEUPrPIEUP-SIOS-TIKEUTxCIEUCyHIEUCHrSIOS-MIEUM
wKAPYEOUNPIEUPsSANGSIOS-KIYEOK&TIKEUTsIOS-PANSIOSwCIEUCxHIEUCHwTHIEUTHwHIEUHrPANSIOS-PIEUP
zKAPYEOUNPIEUPrYESIEUNG-MIEUM!HIEUHrCIEUC-PIEUPxSSANGPIEUPrSSANGCIEUCrPHIEUPH-SIOSzTHIEUTH
=F900aCJK COMPATIBILITY IDEOGRAPH-F900+1+2+3+4+5+6+7+8+9+A+B+C+D+E+F*10+1+2+3+4+5+6+7+8+9+A+B+C+D+E
+F*20+1+2+3+4+5+6+7+8+9+A+B+C+D+E+F*30+1+2+3+4+5+6+7+8+9+A+B+C+D+E+F*40+1+2+3+4+5+6+7+8+9+A+B+C+D+E
+F*50+1+2+3+4+5+6+7+8+9+A+B+C+D+E+F*60+1+2+3+4+5+6+7+8+9+A+B+C+D+E+F*70+1+2+3+4+5+6+7+8+9+A+B+C+D+E
+F*80+1+2+3+4+5+6+7+8+9+A+B+C+D+E+F*90+1+2+3+4+5+6+7+8+9+A+B+C+D+E+F*A0+1+2+3+4+5+6+7+8+9+A+B+C+D+E
+F*B0+1+2+3+4+5+6+7+8+9+A+B+C+D+E+F*C0+1+2+3+4+5+6+7+8+9+A+B+C+D+E+F*D0+1+2+3+4+5+6+7+8+9+A+B+C+D+E
+F*E0+1+2+3+4+5+6+7+8+9+A+B+C+D+E+F*F0+1+2+3+4+5+6+7+8+9+A+B+C+D+E+F)A00+1+2+3+4+5+6+7+8+9+A+B+C+D+E
+F*10+1+2+3+4+5+6+7+8+9+A+B+C+D+E+F*20+1+2+3+4+5+6+7+8+9+A+B+C+D+E+F*30+1+2+3+4+5+6+7+8+9+A+B+C+D+E
+F*40+1+2+3+4+5+6+7+8+9+A+B+C+D+E+F*50+1+2+3+4+5+6+7+8+9+A+B+C+D+E+F*60+1+2+3+4+5+6+7+8+9+A+B+C+D
=FA70*70+1+2+3+4+5+6+7+8+9+A+B+C+D+E+F*80+1+2+3+4+5+6+7+8+9+A+B+C+D+E+F*90+1+2+3+4+5+6+7+8+9+A+B+C+D
+E+F*A0+1+2+3+4+5+6+7+8+9+A+B+C+D+E+F*B0+1+2+3+4+5+6+7+8+9+A+B+C+D+E+F*C0+1+2+3+4+5+6+7+8+9+A+B+C+D
+E+F*D0+1+2+3+4+5+6+7+8+9=FB00aLATIN SMALL LIGATURE FFwIwLwFIxLvLONG S TvST
=FB13aARMENIAN SMALL LIGATURE MEN NOW(ECH(INIyVEW NOWyMEN XEH=FB1DaHEBREW LETTER YOD WITH HIRIQ
hPOINT JUDEO-SPANISH VARIKAhLIGATURE YIDDISH YOD YOD PATAHiETTER ALTERNATIVE AYINoWIDE ALEFtDALETtHE
tKAFtLAMEDtFINAL MEMtRESHtTAVoALTERNATIVE PLUS SIGNoSHIN WITH SHIN DOTzIN DOTyDAGESH AND SHIN DOT
<IN DOToALEF WITH PATAHyQAMATSyMAPIQoBET WITH DAGESHoGIMEL WITH DAGESHoDALET WITH DAGESH
oHE WITH MAPIQoVAV WITH DAGESHoZAYIN WITH DAGESH=FB38oTET WITH DAGESHoYOD WITH DAGESH
oFINAL KAF WITH DAGESHoKAF WITH DAGESHoLAMED WITH DAGESH=FB3EoMEM WITH DAGESH=FB40oNUN WITH DAGESH
oSAMEKH WITH DAGESH=FB43oFINAL PE WITH DAGESHoPE WITH DAGESH=FB46oTSADI WITH DAGESHoQOF WITH DAGESH
oRESH WITH DAGESHoSHIN WITH DAGESHoTAV WITH DAGESHoVAV WITH HOLAMoBET WITH RAFEoKAF WITH RAFE
oPE WITH RAFEiIGATURE ALEF LAMEDaARABIC LETTER ALEF WASLA ISOLATED FORMzFINAL FORM
oBEEH ISOLATED FORMtFINAL FORMtINITIAL FORMtMEDIAL FORMoPEH ISOLATED FORMsFINAL FORMsINITIAL FORM
sMEDIAL FORMoBEHEH ISOLATED FORMuFINAL FORMuINITIAL FORMuMEDIAL FORMoTTEHEH ISOLATED FORMvFINAL FORM
vINITIAL FORMvMEDIAL FORMpEHEH ISOLATED FORMuFINAL FORMuINITIAL FORMuMEDIAL FORMpTEH ISOLATED FORM
tFINAL FORMtINITIAL FORMtMEDIAL FORMoVEH ISOLATED FORMsFINAL FORMsINITIAL FORMsMEDIAL FORM
oPEHEH ISOLATED FORMuFINAL FORMuINITIAL FORMuMEDIAL FORMoDYEH ISOLATED FORMtFINAL FORMtINITIAL FORM
tMEDIAL FORMoNYEH ISOLATED FORMtFINAL FORMtINITIAL FORMtMEDIAL FORMoTCHEH ISOLATED FORMuFINAL FORM
uINITIAL FORMuMEDIAL FORMtEH ISOLATED FORMwFINAL FORMwINITIAL FORMwMEDIAL FORMoDDAHAL ISOLATED FORM
vFINAL FORMpAHAL ISOLATED FORMuFINAL FORMpUL ISOLATED FORMsFINAL FORMpDAL ISOLATED FORMtFINAL FORM
oJEH ISOLATED FORMsFINAL FORMoRREH ISOLATED FORMtFINAL FORMoKEHEH ISOLATED FORMuFINAL FORM
uINITIAL FORMuMEDIAL FORMoGAF ISOLATED FORMsFINAL FORMsINITIAL FORMsMEDIAL FORMpUEH ISOLATED FORM
tFINAL FORMtINITIAL FORMtMEDIAL FORMoNGOEH ISOLATED FORMuFINAL FORMuINITIAL FORMuMEDIAL FORM
pOON GHUNNA ISOLATED FORM!FINAL FORMoRNOON ISOLATED FORMuFINAL FORMuINITIAL FORMuMEDIAL FORM
oHEH WITH YEH ABOVE ISOLATED FORM.FINAL FORMsGOAL ISOLATED FORMxFINAL FORMxINITIAL FORMxMEDIAL FORM
sDOACHASHMEE ISOLATED FORM*FINAL FORM*INITIAL FORM*MEDIAL FORMoYEH BARREE ISOLATED FORMzFINAL FORM
zWITH HAMZA ABOVE ISOLATED FORM_FINAL FORMhSYMBOL DOT ABOVEsBELOWoTWO DOTS ABOVExBELOW
pHREE DOTS ABOVEzBELOWzPOINTING DOWNWARDS ABOVE~BELOWoFOUR DOTS ABOVEyBELOW
oDOUBLE VERTICAL BAR BELOWoTWO DOTS VERTICALLY ABOVE:BELOWoRINGoSMALL TAH ABOVEyBELOWoWASLA ABOVE
=FBD3hLETTER NG ISOLATED FORMrFINAL FORMrINITIAL FORMrMEDIAL FORMoU ISOLATED FORMqFINAL FORM
oOE ISOLATED FORMrFINAL FORMoYU ISOLATED FORMrFINAL FORMoU WITH HAMZA ABOVE ISOLATED FORM
oVE ISOLATED FORMrFINAL FORMoKIRGHIZ OE ISOLATED FORMzFINAL FORMwYU ISOLATED FORMzFINAL FORM
oE ISOLATED FORMqFINAL FORMqINITIAL FORMqMEDIAL FORMoUIGHUR KAZAKH KIRGHIZ ALEF MAKSURA INITIAL FORM
~SURA MEDIAL FORMiIGATURE YEH WITH HAMZA ABOVE WITH ALEF ISOLATED FORM~EF FINAL FORM|E ISOLATED FORM
~ FINAL FORM_WAW ISOLATED FORM~W FINAL FORM_U ISOLATED FORM~FINAL FORM_OE ISOLATED FORM~ FINAL FORM
_YU ISOLATED FORM~ FINAL FORM_E ISOLATED FORM~FINAL FORM~INITIAL FORM
qUIGHUR KIRGHIZ YEH WITH HAMZA ABOVE WITH ALEF MAKSURA ISOLATED FORM
~A ABOVE WITH ALEF MAKSURA FINAL FORM~A ABOVE WITH ALEF MAKSURA INITIAL FORM
iETTER FARSI YEH ISOLATED FORMyFINAL FORMyINITIAL FORMyMEDIAL FORM
iIGATURE YEH WITH HAMZA ABOVE WITH JEEM ISOLATED FORM_HAH ISOLATED FORM_MEEM ISOLATED FORM
_ALEF MAKSURA ISOLATED FORM_YEH ISOLATED FORMqBEH WITH JEEM ISOLATED FORMzHAH ISOLATED FORM
zKHAH ISOLATED FORMzMEEM ISOLATED FORMzALEF MAKSURA ISOLATED FORMzYEH ISOLATED FORM
qTEH WITH JEEM ISOLATED FORMzHAH ISOLATED FORMzKHAH ISOLATED FORMzMEEM ISOLATED FORM
zALEF MAKSURA ISOLATED FORMzYEH ISOLATED FORMrHEH WITH JEEM ISOLATED FORM!MEEM ISOLATED FORM
!ALEF MAKSURA ISOLATED FORM!YEH ISOLATED FORMqJEEM WITH HAH ISOLATED FORM!MEEM ISOLATED FORM
qHAH WITH JEEM ISOLATED FORMzMEEM ISOLATED FORMqKHAH WITH JEEM ISOLATED FORM!HAH ISOLATED FORM
!MEEM ISOLATED FORMqSEEN WITH JEEM ISOLATED FORM!HAH ISOLATED FORM!KHAH ISOLATED FORM
!MEEM ISOLATED FORMrAD WITH HAH ISOLATED FORMzMEEM ISOLATED FORMqDAD WITH JEEM ISOLATED FORM
zHAH ISOLATED FORMzKHAH ISOLATED FORMzMEEM ISOLATED FORMqTAH WITH HAH ISOLATED FORM
zMEEM ISOLATED FORMqZAH WITH MEEM ISOLATED FORMqAIN WITH JEEM ISOLATED FORMzMEEM ISOLATED FORM
qGHAIN WITH JEEM ISOLATED FORM&MEEM ISOLATED FORMqFEH WITH JEEM ISOLATED FORMzHAH ISOLATED FORM
zKHAH ISOLATED FORMzMEEM ISOLATED FORMzALEF MAKSURA ISOLATED FORMzYEH ISOLATED FORM
qQAF WITH HAH ISOLATED FORMzMEEM ISOLATED FORMzALEF MAKSURA ISOLATED FORMzYEH ISOLATED FORM
qKAF WITH ALEF ISOLATED FORMzJEEM ISOLATED FORMzHAH ISOLATED FORMzKHAH ISOLATED FORM
zLAM ISOLATED FORMzMEEM ISOLATED FORMzALEF MAKSURA ISOLATED FORMzYEH ISOLATED FORM
qLAM WITH JEEM ISOLATED FORMzHAH ISOLATED FORMzKHAH ISOLATED FORMzMEEM ISOLATED FORM
zALEF MAKSURA ISOLATED FORMzYEH ISOLATED FORMqMEEM WITH JEEM ISOLATED FORM!HAH ISOLATED FORM
!KHAH ISOLATED FORM!MEEM ISOLATED FORM!ALEF MAKSURA ISOLATED FORM!YEH ISOLATED FORM
qNOON WITH JEEM ISOLATED FORM!HAH ISOLATED FORM!KHAH ISOLATED FORM!MEEM ISOLATED FORM
!ALEF MAKSURA ISOLATED FORM!YEH ISOLATED FORMqHEH WITH JEEM ISOLATED FORMzMEEM ISOLATED FORM
zALEF MAKSURA ISOLATED FORMzYEH ISOLATED FORMqYEH WITH JEEM ISOLATED FORMzHAH ISOLATED FORM
zKHAH ISOLATED FORMzMEEM ISOLATED FORMzALEF MAKSURA ISOLATED FORMzYEH ISOLATED FORM
qTHAL WITH SUPERSCRIPT ALEF ISOLATED FORMqREH WITH SUPERSCRIPT ALEF ISOLATED FORM
qALEF MAKSURA WITH SUPERSCRIPT ALEF ISOLATED FORMqSHADDA WITH DAMMATAN ISOLATED FORM
(KASRATAN ISOLATED FORM(FATHA ISOLATED FORM(DAMMA ISOLATED FORM(KASRA ISOLATED FORM
(SUPERSCRIPT ALEF ISOLATED FORMqYEH WITH HAMZA ABOVE WITH REH FINAL FORM_ZAIN FINAL FORM
_MEEM FINAL FORM_NOON FINAL FORM_ALEF MAKSURA FINAL FORM_YEH FINAL FORMqBEH WITH REH FINAL FORM
zZAIN FINAL FORMzMEEM FINAL FORMzNOON FINAL FORMzALEF MAKSURA FINAL FORMzYEH FINAL FORM
qTEH WITH REH FINAL FORMzZAIN FINAL FORMzMEEM FINAL FORMzNOON FINAL FORMzALEF MAKSURA FINAL FORM
zYEH FINAL FORMrHEH WITH REH FINAL FORM!ZAIN FINAL FORM!MEEM FINAL FORM!NOON FINAL FORM
!ALEF MAKSURA FINAL FORM!YEH FINAL FORMqFEH WITH ALEF MAKSURA FINAL FORMzYEH FINAL FORM
qQAF WITH ALEF MAKSURA FINAL FORMzYEH FINAL FORMqKAF WITH ALEF FINAL FORMzLAM FINAL FORM
zMEEM FINAL FORMzALEF MAKSURA FINAL FORMzYEH FINAL FORMqLAM WITH MEEM FINAL FORM
zALEF MAKSURA FINAL FORMzYEH FINAL FORMqMEEM WITH ALEF FINAL FORM!MEEM FINAL FORM
qNOON WITH REH FINAL FORM!ZAIN FINAL FORM!MEEM FINAL FORM!NOON FINAL FORM!ALEF MAKSURA FINAL FORM
!YEH FINAL FORMqALEF MAKSURA WITH SUPERSCRIPT ALEF FINAL FORMqYEH WITH REH FINAL FORM
zZAIN FINAL FORMzMEEM FINAL FORMzNOON FINAL FORMzALEF MAKSURA FINAL FORMzYEH FINAL FORM
zHAMZA ABOVE WITH JEEM INITIAL FORM_HAH INITIAL FORM_KHAH INITIAL FORM_MEEM INITIAL FORM
_HEH INITIAL FORMqBEH WITH JEEM INITIAL FORMzHAH INITIAL FORMzKHAH INITIAL FORMzMEEM INITIAL FORM
zHEH INITIAL FORMqTEH WITH JEEM INITIAL FORMzHAH INITIAL FORMzKHAH INITIAL FORMzMEEM INITIAL FORM
zHEH INITIAL FORMrHEH WITH MEEM INITIAL FORMqJEEM WITH HAH INITIAL FORM!MEEM INITIAL FORM
qHAH WITH JEEM INITIAL FORMzMEEM INITIAL FORMqKHAH WITH JEEM INITIAL FORM!MEEM INITIAL FORM
qSEEN WITH JEEM INITIAL FORM!HAH INITIAL FORM!KHAH INITIAL FORM!MEEM INITIAL FORM
rAD WITH HAH INITIAL FORMzKHAH INITIAL FORMzMEEM INITIAL FORMqDAD WITH JEEM INITIAL FORM
zHAH INITIAL FORMzKHAH INITIAL FORMzMEEM INITIAL FORMqTAH WITH HAH INITIAL FORM
qZAH WITH MEEM INITIAL FORMqAIN WITH JEEM INITIAL FORMzMEEM INITIAL FORM
qGHAIN WITH JEEM INITIAL FORM&MEEM INITIAL FORMqFEH WITH JEEM INITIAL FORMzHAH INITIAL FORM
zKHAH INITIAL FORMzMEEM INITIAL FORMqQAF WITH HAH INITIAL FORMzMEEM INITIAL FORM
qKAF WITH JEEM INITIAL FORMzHAH INITIAL FORMzKHAH INITIAL FORMzLAM INITIAL FORMzMEEM INITIAL FORM
qLAM WITH JEEM INITIAL FORMzHAH INITIAL FORMzKHAH INITIAL FORMzMEEM INITIAL FORMzHEH INITIAL FORM
qMEEM WITH JEEM INITIAL FORM!HAH INITIAL FORM!KHAH INITIAL FORM!MEEM INITIAL FORM
qNOON WITH JEEM INITIAL FORM!HAH INITIAL FORM!KHAH INITIAL FORM!MEEM INITIAL FORM!HEH INITIAL FORM
qHEH WITH JEEM INITIAL FORMzMEEM INITIAL FORMzSUPERSCRIPT ALEF INITIAL FORM
qYEH WITH JEEM INITIAL FORMzHAH INITIAL FORMzKHAH INITIAL FORMzMEEM INITIAL FORMzHEH INITIAL FORM
!AMZA ABOVE WITH MEEM MEDIAL FORM_HEH MEDIAL FORMqBEH WITH MEEM MEDIAL FORMzHEH MEDIAL FORM
qTEH WITH MEEM MEDIAL FORMzHEH MEDIAL FORMrHEH WITH MEEM MEDIAL FORM!HEH MEDIAL FORM
qSEEN WITH MEEM MEDIAL FORM!HEH MEDIAL FORMrHEEN WITH MEEM MEDIAL FORM&HEH MEDIAL FORM
qKAF WITH LAM MEDIAL FORMzMEEM MEDIAL FORMqLAM WITH MEEM MEDIAL FORMqNOON WITH MEEM MEDIAL FORM
!HEH MEDIAL FORMqYEH WITH MEEM MEDIAL FORMzHEH MEDIAL FORMqSHADDA WITH FATHA MEDIAL FORM
(DAMMA MEDIAL FORM(KASRA MEDIAL FORMqTAH WITH ALEF MAKSURA ISOLATED FORMzYEH ISOLATED FORM
qAIN WITH ALEF MAKSURA ISOLATED FORMzYEH ISOLATED FORMqGHAIN WITH ALEF MAKSURA ISOLATED FORM
&YEH ISOLATED FORMqSEEN WITH ALEF MAKSURA ISOLATED FORM!YEH ISOLATED FORM
rHEEN WITH ALEF MAKSURA ISOLATED FORM&YEH ISOLATED FORMqHAH WITH ALEF MAKSURA ISOLATED FORM
zYEH ISOLATED FORMqJEEM WITH ALEF MAKSURA ISOLATED FORM!YEH ISOLATED FORM
qKHAH WITH ALEF MAKSURA ISOLATED FORM!YEH ISOLATED FORMqSAD WITH ALEF MAKSURA ISOLATED FORM
zYEH ISOLATED FORMqDAD WITH ALEF MAKSURA ISOLATED FORMzYEH ISOLATED FORM
qSHEEN WITH JEEM ISOLATED FORM&HAH ISOLATED FORM&KHAH ISOLATED FORM&MEEM ISOLATED FORM
&REH ISOLATED FORMrEEN WITH REH ISOLATED FORMrAD WITH REH ISOLATED FORMqDAD WITH REH ISOLATED FORM
qTAH WITH ALEF MAKSURA FINAL FORMzYEH FINAL FORMqAIN WITH ALEF MAKSURA FINAL FORMzYEH FINAL FORM
qGHAIN WITH ALEF MAKSURA FINAL FORM&YEH FINAL FORMqSEEN WITH ALEF MAKSURA FINAL FORM!YEH FINAL FORM
rHEEN WITH ALEF MAKSURA FINAL FORM&YEH FINAL FORMqHAH WITH ALEF MAKSURA FINAL FORMzYEH FINAL FORM
qJEEM WITH ALEF MAKSURA FINAL FORM!YEH FINAL FORMqKHAH WITH ALEF MAKSURA FINAL FORM!YEH FINAL FORM
qSAD WITH ALEF MAKSURA FINAL FORMzYEH FINAL FORMqDAD WITH ALEF MAKSURA FINAL FORMzYEH FINAL FORM
qSHEEN WITH JEEM FINAL FORM&HAH FINAL FORM&KHAH FINAL FORM&MEEM FINAL FORM&REH FINAL FORM
rEEN WITH REH FINAL FORMrAD WITH REH FINAL FORMqDAD WITH REH FINAL FORMqSHEEN WITH JEEM INITIAL FORM
&HAH INITIAL FORM&KHAH INITIAL FORM&MEEM INITIAL FORMrEEN WITH HEH INITIAL FORM
rHEEN WITH HEH INITIAL FORMqTAH WITH MEEM INITIAL FORMqSEEN WITH JEEM MEDIAL FORM!HAH MEDIAL FORM
!KHAH MEDIAL FORMrHEEN WITH JEEM MEDIAL FORM&HAH MEDIAL FORM&KHAH MEDIAL FORM
qTAH WITH MEEM MEDIAL FORMqZAH WITH MEEM MEDIAL FORMqALEF WITH FATHATAN FINAL FORM;ISOLATED FORM
aORNATE LEFT PARENTHESIShRIGHT PARENTHESISaARABIC LIGATURE RAHIMAHU ALLAAHsDI ALLAAHU ANH,AA,UM:AA
.NNAqSALLALLAAHU ALAYHI WA-AALIHqALAYHI AS-SALAAMwM AS-SALAAMxAA AS-SALAAMw AS-SALAATU WAS-SALAAM
qQUDDISA SIRRAHqSALLALLAHU ALAYHI WAAALIHEE WA-SALLAMqALAYHAA AS-SALAAMqTABAARAKA WA-TAAALAA
qRAHIMAHUM ALLAAHqTEH WITH JEEM WITH MEEM INITIAL FORMzHAH WITH JEEM FINAL FORM[INITIAL FORM
:MEEM INITIAL FORMzKHAH WITH MEEM INITIAL FORMzMEEM WITH JEEM INITIAL FORM;HAH INITIAL FORM
;KHAH INITIAL FORMqJEEM WITH MEEM WITH HAH FINAL FORM]INITIAL FORMqHAH WITH MEEM WITH YEH FINAL FORM
;ALEF MAKSURA FINAL FORMqSEEN WITH HAH WITH JEEM INITIAL FORM!JEEM WITH HAH INITIAL FORM
<ALEF MAKSURA FINAL FORM!MEEM WITH HAH FINAL FORM]INITIAL FORM<JEEM INITIAL FORM<MEEM FINAL FORM
^INITIAL FORMrAD WITH HAH WITH HAH FINAL FORM?INITIAL FORMzMEEM WITH MEEM FINAL FORM
rHEEN WITH HAH WITH MEEM FINAL FORM^INITIAL FORM&JEEM WITH YEH FINAL FORM&MEEM WITH KHAH FINAL FORM
_INITIAL FORM>MEEM FINAL FORM_INITIAL FORMqDAD WITH HAH WITH ALEF MAKSURA FINAL FORM
zKHAH WITH MEEM FINAL FORM]INITIAL FORMqTAH WITH MEEM WITH HAH FINAL FORM[INITIAL FORM
;MEEM INITIAL FORM;YEH FINAL FORMqAIN WITH JEEM WITH MEEM FINAL FORMzMEEM WITH MEEM FINAL FORM
]INITIAL FORM;ALEF MAKSURA FINAL FORMqGHAIN WITH MEEM WITH MEEM FINAL FORM>YEH FINAL FORM
>ALEF MAKSURA FINAL FORMqFEH WITH KHAH WITH MEEM FINAL FORM]INITIAL FORM
qQAF WITH MEEM WITH HAH FINAL FORM;MEEM FINAL FORMqLAM WITH HAH WITH MEEM FINAL FORM:YEH FINAL FORM
:ALEF MAKSURA FINAL FORMzJEEM WITH JEEM INITIAL FORM]FINAL FORMzKHAH WITH MEEM FINAL FORM
]INITIAL FORMzMEEM WITH HAH FINAL FORM[INITIAL FORMqMEEM WITH HAH WITH JEEM INITIAL FORM
;MEEM INITIAL FORM;YEH FINAL FORM!JEEM WITH HAH INITIAL FORM<MEEM INITIAL FORM
!KHAH WITH JEEM INITIAL FORM<MEEM INITIAL FORM=FD92!JEEM WITH KHAH INITIAL FORM
qHEH WITH MEEM WITH JEEM INITIAL FORM;MEEM INITIAL FORMqNOON WITH HAH WITH MEEM INITIAL FORM
;ALEF MAKSURA FINAL FORM!JEEM WITH MEEM FINAL FORM^INITIAL FORM<ALEF MAKSURA FINAL FORM
!MEEM WITH YEH FINAL FORM<ALEF MAKSURA FINAL FORMqYEH WITH MEEM WITH MEEM FINAL FORM]INITIAL FORM
qBEH WITH KHAH WITH YEH FINAL FORMqTEH WITH JEEM WITH YEH FINAL FORM;ALEF MAKSURA FINAL FORM
zKHAH WITH YEH FINAL FORM;ALEF MAKSURA FINAL FORMzMEEM WITH YEH FINAL FORM;ALEF MAKSURA FINAL FORM
qJEEM WITH MEEM WITH YEH FINAL FORM!HAH WITH ALEF MAKSURA FINAL FORM
!MEEM WITH ALEF MAKSURA FINAL FORMqSEEN WITH KHAH WITH ALEF MAKSURA FINAL FORM
rAD WITH HAH WITH YEH FINAL FORMrHEEN WITH HAH WITH YEH FINAL FORMqDAD WITH HAH WITH YEH FINAL FORM
qLAM WITH JEEM WITH YEH FINAL FORMzMEEM WITH YEH FINAL FORMqYEH WITH HAH WITH YEH FINAL FORM
zJEEM WITH YEH FINAL FORMzMEEM WITH YEH FINAL FORMqMEEM WITH MEEM WITH YEH FINAL FORM
qQAF WITH MEEM WITH YEH FINAL FORMqNOON WITH HAH WITH YEH FINAL FORM
qQAF WITH MEEM WITH HAH INITIAL FORMqLAM WITH HAH WITH MEEM INITIAL FORM
qAIN WITH MEEM WITH YEH FINAL FORMqKAF WITH MEEM WITH YEH FINAL FORM
qNOON WITH JEEM WITH HAH INITIAL FORMqMEEM WITH KHAH WITH YEH FINAL FORM
qLAM WITH JEEM WITH MEEM INITIAL FORMqKAF WITH MEEM WITH MEEM FINAL FORM
qLAM WITH JEEM WITH MEEM FINAL FORMqNOON WITH JEEM WITH HAH FINAL FORM
qJEEM WITH HAH WITH YEH FINAL FORMqHAH WITH JEEM WITH YEH FINAL FORM
qMEEM WITH JEEM WITH YEH FINAL FORMqFEH WITH MEEM WITH YEH FINAL FORM
qBEH WITH HAH WITH YEH FINAL FORMqKAF WITH MEEM WITH MEEM INITIAL FORM
qAIN WITH JEEM WITH MEEM INITIAL FORMqSAD WITH MEEM WITH MEEM INITIAL FORM
rEEN WITH KHAH WITH YEH FINAL FORMqNOON WITH JEEM WITH YEH FINAL FORM=FDCFqSALAAMUHU ALAYNAA
=FDF0tLA USED AS KORANIC STOP SIGN ISOLATED FORMqQALA USED AS KORANIC STOP SIGN ISOLATED FORM
qALLAH ISOLATED FORMrKBAR ISOLATED FORMqMOHAMMAD ISOLATED FORMqSALAM ISOLATED FORM
qRASOUL ISOLATED FORMqALAYHE ISOLATED FORMqWASALLAM ISOLATED FORMqSALLA ISOLATED FORM
vLLAHOU ALAYHE WASALLAMqJALLAJALALOUHOUaRIAL SIGNaARABIC LIGATURE BISMILLAH AR-RAHMAN AR-RAHEEM
qSUBHAANAHU WA TAAALAAqAZZA WA JALLaVARIATION SELECTOR-1t2t3t4t5t6t7t8t9t10u1u2u3u4u5u6
aPRESENTATION FORM FOR VERTICAL COMMA+IDEOGRAPHIC COMMA|FULL STOP+COLON+SEMICOLON+EXCLAMATION MARK
+QUESTION MARK+LEFT WHITE LENTICULAR BRACKET+RIGHT WHITE LENTICULAR BRAKCET+HORIZONTAL ELLIPSIS
=FE20aCOMBINING LIGATURE LEFT HALFtRIGHT HALFkDOUBLE TILDE LEFT HALFxRIGHT HALFkMACRON LEFT HALF
rRIGHT HALFkCONJOINING MACRONkLIGATURE LEFT HALF BELOWtRIGHT HALF BELOWkTILDE LEFT HALF BELOW
qRIGHT HALF BELOWkMACRON LEFT HALF BELOWrRIGHT HALF BELOWkCONJOINING MACRON BELOW
lYRILLIC TITLO LEFT HALFzRIGHT HALFaPRESENTATION FORM FOR VERTICAL TWO DOT LEADER+EM DASH,N DASH
+LOW LINE+WAVY LOW LINE+LEFT PARENTHESIS+RIGHT PARENTHESIS+LEFT CURLY BRACKET+RIGHT CURLY BRACKET
+LEFT TORTOISE SHELL BRACKET+RIGHT TORTOISE SHELL BRACKET+LEFT BLACK LENTICULAR BRACKET
+RIGHT BLACK LENTICULAR BRACKET+LEFT DOUBLE ANGLE BRACKET+RIGHT DOUBLE ANGLE BRACKET
+LEFT ANGLE BRACKET+RIGHT ANGLE BRACKET+LEFT CORNER BRACKET+RIGHT CORNER BRACKET
+LEFT WHITE CORNER BRACKET+RIGHT WHITE CORNER BRACKETaSESAME DOTaWHITE SESAME DOT
aPRESENTATION FORM FOR VERTICAL LEFT SQUARE BRACKET+RIGHT SQUARE BRACKETaDASHED OVERLINE
aCENTRELINE OVERLINEaWAVY OVERLINEaDOUBLE WAVY OVERLINEbASHED LOW LINEaCENTRELINE LOW LINE
aWAVY LOW LINEaSMALL COMMAgIDEOGRAPHIC COMMAgFULL STOP=FE54gSEMICOLONgCOLONgQUESTION MARK
gEXCLAMATION MARKhM DASHgLEFT PARENTHESISgRIGHT PARENTHESISgLEFT CURLY BRACKETgRIGHT CURLY BRACKET
gLEFT TORTOISE SHELL BRACKETgRIGHT TORTOISE SHELL BRACKETgNUMBER SIGNgAMPERSANDhSTERISKgPLUS SIGN
gHYPHEN-MINUSgLESS-THAN SIGNgGREATER-THAN SIGNgEQUALS SIGN=FE68gREVERSE SOLIDUSgDOLLAR SIGN
gPERCENT SIGNgCOMMERCIAL AT=FE70aARABIC FATHATAN ISOLATED FORMhTATWEEL WITH FATHATAN ABOVE
hDAMMATAN ISOLATED FORMhTAIL FRAGMENThKASRATAN ISOLATED FORM=FE76hFATHA ISOLATED FORMnMEDIAL FORM
hDAMMA ISOLATED FORMnMEDIAL FORMhKASRA ISOLATED FORMnMEDIAL FORMhSHADDA ISOLATED FORMoMEDIAL FORM
iUKUN ISOLATED FORMnMEDIAL FORMhLETTER HAMZA ISOLATED FORMoALEF WITH MADDA ABOVE ISOLATED FORM
<FINAL FORMyHAMZA ABOVE ISOLATED FORM<FINAL FORMoWAW WITH HAMZA ABOVE ISOLATED FORM;FINAL FORM
oALEF WITH HAMZA BELOW ISOLATED FORM<FINAL FORMoYEH WITH HAMZA ABOVE ISOLATED FORM;FINAL FORM
;INITIAL FORM;MEDIAL FORMoALEF ISOLATED FORMtFINAL FORMoBEH ISOLATED FORMsFINAL FORMsINITIAL FORM
sMEDIAL FORMoTEH MARBUTA ISOLATED FORM!FINAL FORMsISOLATED FORMsFINAL FORMsINITIAL FORMsMEDIAL FORM
pHEH ISOLATED FORMtFINAL FORMtINITIAL FORMtMEDIAL FORMoJEEM ISOLATED FORMtFINAL FORMtINITIAL FORM
tMEDIAL FORMoHAH ISOLATED FORMsFINAL FORMsINITIAL FORMsMEDIAL FORMoKHAH ISOLATED FORMtFINAL FORM
tINITIAL FORMtMEDIAL FORMoDAL ISOLATED FORMsFINAL FORMoTHAL ISOLATED FORMtFINAL FORM
oREH ISOLATED FORMsFINAL FORMoZAIN ISOLATED FORMtFINAL FORMoSEEN ISOLATED FORMtFINAL FORM
tINITIAL FORMtMEDIAL FORMpHEEN ISOLATED FORMuFINAL FORMuINITIAL FORMuMEDIAL FORMpAD ISOLATED FORM
sFINAL FORMsINITIAL FORMsMEDIAL FORMoDAD ISOLATED FORMsFINAL FORMsINITIAL FORMsMEDIAL FORM
oTAH ISOLATED FORMsFINAL FORMsINITIAL FORMsMEDIAL FORMoZAH ISOLATED FORMsFINAL FORMsINITIAL FORM
sMEDIAL FORMoAIN ISOLATED FORMsFINAL FORMsINITIAL FORMsMEDIAL FORMoGHAIN ISOLATED FORMuFINAL FORM
uINITIAL FORMuMEDIAL FORMoFEH ISOLATED FORMsFINAL FORMsINITIAL FORMsMEDIAL FORMoQAF ISOLATED FORM
sFINAL FORMsINITIAL FORMsMEDIAL FORMoKAF ISOLATED FORMsFINAL FORMsINITIAL FORMsMEDIAL FORM
oLAM ISOLATED FORMsFINAL FORMsINITIAL FORMsMEDIAL FORMoMEEM ISOLATED FORMtFINAL FORMtINITIAL FORM
tMEDIAL FORMoNOON ISOLATED FORMtFINAL FORMtINITIAL FORMtMEDIAL FORMoHEH ISOLATED FORMsFINAL FORM
sINITIAL FORMsMEDIAL FORMoWAW ISOLATED FORMsFINAL FORMoALEF MAKSURA ISOLATED FORM&FINAL FORM
oYEH ISOLATED FORMsFINAL FORMsINITIAL FORMsMEDIAL FORM
iIGATURE LAM WITH ALEF WITH MADDA ABOVE ISOLATED FORM~VE FINAL FORM;HAMZA ABOVE ISOLATED FORM
~VE FINAL FORM^BELOW ISOLATED FORM~OW FINAL FORM*ISOLATED FORM*FINAL FORM
=FEFFaZERO WIDTH NO-BREAK SPACE=FF01aFULLWIDTH EXCLAMATION MARKkQUOTATION MARKkNUMBER SIGN
kDOLLAR SIGNkPERCENT SIGNkAMPERSANDlPOSTROPHEkLEFT PARENTHESISkRIGHT PARENTHESISkASTERISKkPLUS SIGN
kCOMMAkHYPHEN-MINUSkFULL STOPkSOLIDUSkDIGIT ZEROqONEqTWOrHREEqFOURrIVEqSIXrEVENqEIGHTqNINEkCOLON
kSEMICOLONkLESS-THAN SIGNkEQUALS SIGNkGREATER-THAN SIGNkQUESTION MARKkCOMMERCIAL AT
kLATIN CAPITAL LETTER A+B+C+D+E+F+G+H+I+J+K+L+M+N+O+P+Q+R+S+T+U+V+W+X+Y+ZlEFT SQUARE BRACKET
kREVERSE SOLIDUSlIGHT SQUARE BRACKETkCIRCUMFLEX ACCENTkLOW LINEkGRAVE ACCENTkLATIN SMALL LETTER A)B
)C)D)E)F)G)H)I)J)K)L)M)N)O)P)Q)R)S)T)U)V)W)X)Y)ZlEFT CURLY BRACKETkVERTICAL LINEkRIGHT CURLY BRACKET
kTILDEkLEFT WHITE PARENTHESISkRIGHT WHITE PARENTHESISaHALFWIDTH IDEOGRAPHIC FULL STOP
kLEFT CORNER BRACKETkRIGHT CORNER BRACKETkIDEOGRAPHIC COMMAkKATAKANA MIDDLE DOTtLETTER WO!SMALL A,I
,U,E,O,YA.U.O,TUs-HIRAGANA PROLONGED SOUND MARKs LETTER A!I!U!E!O!KA&I&U&E&O!SA&I&U&E&O!TA&I&U&E&O
!NA&I&U&E&O!HA&I&U&E&O!MA&I&U&E&O!YA&U&O!RA&I&U&E&O!WA!NtVOICED SOUND MARKtSEMI-VOICED SOUND MARK
kHANGUL FILLERrLETTER KIYEOKySSANGKIYEOKyKIYEOK-SIOSyNIEUN)-CIEUC*HIEUHyTIKEUTySSANGTIKEUTyRIEUL
)-KIYEOK*MIEUM*PIEUP*SIOS*THIEUTH*PHIEUPH*HIEUHyMIEUMyPIEUPySSANGPIEUPyPIEUP-SIOSySIOSzSANGSIOS
yIEUNGyCIEUCySSANGCIEUCyCHIEUCHyKHIEUKHyTHIEUTHyPHIEUPHyHIEUH=FFC2yAzEyYA!EyEOz=FFCAyYEO!yOyWA!EyOE
=FFD2yYOyUyWEO!zIyYU=FFDAyEUyYIyI=FFE0aFULLWIDTH CENT SIGNkPOUND SIGNkNOT SIGNkMACRONkBROKEN BAR
kYEN SIGNkWON SIGN=FFE8aHALFWIDTH FORMS LIGHT VERTICALkLEFTWARDS ARROWkUPWARDS ARROW
kRIGHTWARDS ARROWkDOWNWARDS ARROWkBLACK SQUAREkWHITE CIRCLE=FFF9aINTERLINEAR ANNOTATION ANCHOR
xSEPARATORxTERMINATORaOBJECT REPLACEMENT CHARACTERaREPLACEMENT CHARACTER
=10000aLINEAR B SYLLABLE B008 Au38 Eu28 Iu61 Ou10 Uu01 DAu45 DEu07 DIu14 DOu51 DUv7 JAu46 JE
=1000Du36 JOu65 JUu77 KAu44 KEu67 KIu70 KOu81 KUv0 MAu13 MEu73 MIu15 MOu23 MUu06 NAu24 NEu30 NI
u52 NOv5 NUu03 PAu72 PEu39 PIu11 POu50 PUu16 QAu78 QEu21 QIu32 QO=10028u60 RAu27 REu53 RIu02 RO
u26 RUu31 SAu09 SEu41 SIu12 SOu58 SUv9 TAu04 TEu37 TIu05 TOu69 TUu54 WAu75 WEu40 WIv2 WO=1003Cu17 ZA
u74 ZE=1003Fu20 ZOv5 A2u43 A3u85 AUu71 DWEu90 DWOu48 NWAu29 PU2u62 PTEu76 RA2u33 RA3u68 RO2v6 TA2
u87 TWEu91 TWO=10050lMBOL B018t9s22s34s47t9s56s63t4s79s82t3t6t9=10080jIDEOGRAM B100 MANv2 WOMAN
v4 DEERv5 EQUIDwF MAREwM STALLIONv6F EWEwM RAMv7F SHE-GOATwM HE-GOATv8F SOWwM BOARv9F COWwM BULL
u20 WHEATv1 BARLEYv2 OLIVEv3 SPICEv5 CYPERUSjMONOGRAM B127 KAPOv8 KANAKOjIDEOGRAM B130 OILv1 WINEv2
jMONOGRAM B133 AREPAv5 MERIjIDEOGRAM B140 BRONZEv1 GOLDv2v5 WOOLv6u50v1 HORNv2v3v4
jMONOGRAM B156 TURO2jIDEOGRAM B157v8v9 CLOTHu60v1v2 GARMENTv3 ARMOURv4v5v6v7v8v9u70v1v2v3 MONTHv4
v6 TREEv7v8v9u80v1v2v3v4v5v9u90v1 HELMETt220 FOOTSTOOLv5 BATHTUBu30 SPEARv1 ARROWv2v3 SWORDv4v6
u40 WHEELED CHARIOTv1 CHARIOTv2 CHARIOT FRAMEv3 WHEELv5v6jMONOGRAM B247 DIPTEjIDEOGRAM B248v9u51v2v3
v4 DARTv5v6v7v8v9sVESSEL B155!200(1(2(3(4(5(6(7(8(9&10(1(2(3(4(5(6(7(8(9&21(2(6(7(8(9&50!305
=10100aAEGEAN WORD SEPARATOR LINEwDOThCHECK MARK=10107hNUMBER ONEoTWOpHREEoFOURpIVEoSIXpEVENoEIGHT
oNINEoTENpWENTYpHIRTYoFORTYpIFTYoSIXTYpEVENTYoEIGHTYoNINETYoONE HUNDREDoTWO HUNDREDpHREE HUNDRED
oFOUR HUNDREDpIVE HUNDREDoSIX HUNDREDpEVEN HUNDREDoEIGHT HUNDREDoNINE HUNDREDoONE THOUSAND
oTWO THOUSANDpHREE THOUSANDoFOUR THOUSANDpIVE THOUSANDoSIX THOUSANDpEVEN THOUSANDoEIGHT THOUSAND
oNINE THOUSANDoTEN THOUSANDpWENTY THOUSANDpHIRTY THOUSANDoFORTY THOUSANDpIFTY THOUSAND
oSIXTY THOUSANDpEVENTY THOUSANDoEIGHTY THOUSANDoNINETY THOUSAND=10137hWEIGHT BASE UNIToFIRST SUBUNIT
oSECOND SUBUNIToTHIRD SUBUNIToFOURTH SUBUNIThDRY MEASURE FIRST SUBUNIThLIQUID MEASURE FIRST SUBUNIT
hMEASURE SECOND SUBUNITpTHIRD SUBUNITaGREEK ACROPHONIC ATTIC ONE QUARTER&HALF&DRACHMAxFIVEzFTY
zVE HUNDRED(THOUSANDzFTY THOUSANDzVE TALENTSxTEN TALENTSxFIFTY TALENTSxONE HUNDRED TALENTS
xFIVE HUNDRED TALENTSxONE THOUSAND TALENTSxFIVE THOUSAND TALENTS(STATERSxTEN STATERSxFIFTY STATERS
xONE HUNDRED STATERSxFIVE HUNDRED STATERSxONE THOUSAND STATERSxTEN THOUSAND STATERS
xFIFTY THOUSAND STATERSxTEN MNASrHERAEUM ONE PLETHRONrTHESPIAN ONErHERMIONIAN ONErEPIDAUREAN TWO
rTHESPIAN TWOrCYRENAIC TWO DRACHMASrEPIDAUREAN TWO DRACHMASrTROEZENIAN FIVE(TEN+ ALTERNATE FORM
rHERMIONIAN TENrMESSENIAN TENrTHESPIAN TEN&HIRTYsROEZENIAN FIFTY. ALTERNATE FORMrHERMIONIAN FIFTY
rTHESPIAN FIFTY!ONE HUNDRED!THREE HUNDREDrEPIDAUREAN FIVE HUNDREDrTROEZENIAN FIVE HUNDRED
sHESPIAN FIVE HUNDREDrCARYSTIAN FIVE HUNDREDrNAXIAN FIVE HUNDREDrTHESPIAN ONE THOUSAND!FIVE THOUSAND
rDELPHIC FIVE MNASrSTRATIAN FIFTY MNASgONE HALF SIGNt ALTERNATE FORMgTWO THIRDS SIGN
hHREE QUARTERS SIGNgYEAR SIGNgTALENT SIGNgDRACHMA SIGNgOBOL SIGNgTWO OBOLS SIGNhHREE OBOLS SIGN
gFOUR OBOLS SIGNhIVE OBOLS SIGNgMETRETES SIGNgKYATHOS BASE SIGNgLITRA SIGNgOUNKIA SIGNgXESTES SIGN
gARTABE SIGNiOURA SIGNgGRAMMA SIGNgTRYBLION BASE SIGNgZERO SIGNgONE QUARTER SIGNgSINUSOID SIGN
gINDICTION SIGNaNOMISMA SIGN=10190aROMAN SEXTANS SIGNgUNCIA SIGNgSEMUNCIA SIGNiXTULA SIGN
gDIMIDIA SEXTULA SIGNgSILIQUA SIGNgDENARIUS SIGNgQUINARIUS SIGNgSESTERTIUS SIGNgDUPONDIUS SIGN
gAS SIGNgCENTURIAL SIGNaASCIA SYMBOL=101A0aGREEK SYMBOL TAU RHO=101D0aPHAISTOS DISC SIGN PEDESTRIAN
uLUMED HEADtTATTOOED HEADtCAPTIVEuHILDtWOMANtHELMETtGAUNTLETtTIARAtARROWtBOWtSHIELDtCLUBtMANACLES
vTTOCKtSAWtLIDtBOOMERANGtCARPENTRY PLANEtDOLIUMtCOMBtSLINGtCOLUMNtBEEHIVEtSHIPtHORNuIDEtBULLS LEG
tCATtRAMtEAGLEtDOVEtTUNNYtBEEtPLANE TREEtVINEtPAPYRUStROSETTEtLILYtOX BACKtFLUTEtGRATERtSTRAINER
uMALL AXEtWAVY BANDtCOMBINING OBLIQUE STROKE=10280aLYCIAN LETTER AoEoBpHoGoDoIoWoZoTHoJoKoQoLoMoNoMM
oNNoUoPoKKoRoSoTpToANoENoHoX=102A0aCARIAN LETTER AoP2oDoLoUUUoRoLDoA2oQoBoMoOoD2oToSHq2poC-18oUoNNoX
oNoTT2oPoSSoIoEoUUUUoKp2oNDoUUoGp2oSTq2oNGoIIoC-39oTToUUU2oRRoMBq2q3q4oLD2oE2oUUU3
=102E0bOPTIC EPACT THOUSANDS MARKnDIGIT ONEtTWOuHREEtFOURuIVEtSIXuEVENtEIGHTtNINEnNUMBER TENvWENTY
vHIRTYuFORTYvIFTYuSIXTYvEVENTYuEIGHTYuNINETYuONE HUNDREDuTWO HUNDREDvHREE HUNDREDuFOUR HUNDRED
vIVE HUNDREDuSIX HUNDREDvEVEN HUNDREDuEIGHT HUNDREDuNINE HUNDRED=10300aOLD ITALIC LETTER AsBEsKEsDE
sEsVEsZEsHEsTHEsIsKAsELtMtNtSHsOsPEsSHEsKUsERtSsTEsUsEKSsPHEsKHEsEFtRSsCHEsIIsUUsESSlNUMERAL ONE
tFIVEtTENtFIFTY=1032DlLETTER YEsNORTHERN TSEsSOUTHERN TSEaGOTHIC LETTER AHSAoBAIRKANoGIBAoDAGS
oAIHVUSoQAIRTHRAoIUJAoHAGLoTHIUTHoEISoKUSMAoLAGUSoMANNAoNAUTHSoJERoURUSoPAIRTHRAoNINETYoRAIDAoSAUIL
oTEIWSoWINJAoFAIHUoIGGWSoHWAIRoOTHALoNINE HUNDRED=10350aOLD PERMIC LETTER ANsBURsGAIsDOIsEsZHOI
sDZHOIsZATAsDZITAsIsKOKEsLEIsMENOEsNENOEsVOOIsPEEIsREIsSIIsTAIsUsCHERYsSHOOIuCHOOIsYRYtERUsOtOsEFsHA
sTSIUsVERsYERvItATsIEsYUtAsIAaCOMBINING OLD PERMIC LETTER AN(DOI(ZATA(NENOE(SII
=10380aUGARITIC LETTER ALPAqBETAqGAMLAqKHAqDELTAqHOqWOqZETAqHOTAqTETqYODqKAFqSHINqLAMDAqMEMqDHALqNUN
qZUqSAMKAqAINqPUqSADEqQOPAqRASHAqTHANNAqGHAINqTOqIqUqSSU=1039FjWORD DIVIDERaOLD PERSIAN SIGN ArIrU
rKAsUrGAsUrXArCArJAsIrTAsUrDAsIsUrTHArPArBArFArNAsUrMAsIsUrYArVAsIrRAsUrLArSArZArSHAsSArHA
=103C8rAURAMAZDAA&-2&HArXSHAAYATHIYArDAHYAAUSH!-2rBAGAsUUMISHmWORD DIVIDERmNUMBER ONEtTWOuENuWENTY
tHUNDRED=10400aDESERET CAPITAL LETTER LONG I(E(A)H(O)OxSHORT I)E)A*H)O*OxAYxOWxWUxYEExHxPEExBEExTEE
xDEExCHEExJEExKAYxGAYxEFxVEExETHxTHEExESxZEExESHxZHEExERyLyMyNzGxOIxEWiSMALL LETTER LONG I!E!A&H!O&O
vSHORT I&E&A(H&O(OvAYvOWvWUvYEEvHvPEEvBEEvTEEvDEEvCHEEvJEEvKAYvGAYvEFvVEEvETHvTHEEvESvZEEvESHvZHEE
vERwLwMwNxGvOIvEWaSHAVIAN LETTER PEEPpTOTpKICKpFEEpTHIGHpSOqUREpCHURCHpYEApHUNGpBIBpDEADpGAGpVOW
pTHEYpZOOpMEASUREpJUDGEpWOEpHA-HApLOLLpMIMEpIFpEGGpASHqDOpONpWOOLpOUTpAHpROARpNUNpEATpAGEpICEpUPpOAK
qOZEqILpAWEqREpORpAIRpERRpARRAYpEARpIANpYEWaOSMANYA LETTER ALEFpBApTApJApXApKHApDEELpRApSAqHIINpDHA
pCAYNpGApFApQAAFpKAAFpLAANpMIINpNUUNpWAWpHApYApApEpIpOpUpAApEEpOO=104A0iDIGIT ZEROoONEoTWOpHREEoFOUR
pIVEoSIXpEVENoEIGHToNINE=104B0cAGE CAPITAL LETTER AwIxNwHvBRAvCHAvEHCHAwwINvHAwYAvIvKAvEHKAvKYAvLA
vMAvNAvOwINvPAvEHPAvSAwHAvTAvEHTAvTSAvEHTSAvTSHAvDHAvUvWAvKHAvGHAvZAwHA=104D8gSMALL LETTER AuIvNuH
tBRAtCHAtEHCHAuuINtHAuYAtItKAtEHKAtKYAtLAtMAtNAtOuINtPAtEHPAtSAuHAtTAtEHTAtTSAtEHTSAtTSHAtDHAtUtWA
tKHAtGHAtZAuHA=10500aELBASAN LETTER ApBEpCEqHEpDEpNDEpDHEpEIqpFEpGEqJEpHEpIpJEpKEpLEqLEpMEpNEqAqJEpO
pPEpQEpREqREpSEqHEpTEqHEpUpVEpXEpYpZEqHEpGHErAMMApKHE=10530aCAUCASIAN ALBANIAN LETTER ALT!BET!GIM
!DAT!EB!ZARL!EYN!ZHIL!TAS!CHA!YOWD!ZHA!IRB!SHA!LAN!INYA!XEYN!DYAN!CAR!JHOX!KAR!LYIT!HEYT!QAY!AOR
!CHOY(I&YAY!MAQ!QAR!NOWC!DZYAY!SHAK!JAYN!ON!TYAY!FAM!DZAY!CHAT!PEN!GHEYS!RAT!SEYK!VEYZ!TIWR!SHOY!IWN
!CYAW&AYN!YAYD!PIWR!KIW=1056FtCITATION MARKaVITHKUQI CAPITAL LETTER AyBBEzEyCEzHEyDEzHEyEIzyFEyGA
=1057CyHAzHAyIzJEyJEyKAyLAzLAyMEyNEzJEyOyPEyQAyRE=1058CySEzHEyTEzHEyUyVEyXE=10594yYyZE
=10597jSMALL LETTER AwBBExEwCExHEwDExHEwEIxwFEwGA=105A3wHAxHAwIxJEwJEwKAwLAxLAwMEwNExJEwOwPEwQAwRE
=105B3wSExHEwTExHEwUwVEwXE=105BBwYwZE=10600aLINEAR A SIGN AB001s2s3s4s5s6s7s8s9r10s1s3s6s7r20s1tFtM
s2tFtMs3tMs4s6s7s8p028BpB029r30s1s4s7s8s9r40s1s4s5s6s7s8s9r50s1s3s4s5s6s7s8s9r60s1s5s6s7s9r70s3s4s6
s7s8s9r80s1s2s5s6s7p100-102pB118r20p120BpB122s3r31AtBp131CpB164r71r80s8r91p301r2r3r4r5r6r7r8r9AsBsC
q10r1r2r3AsBsCr4r5r6r7r8r9q20r1r2r3r4r5r6r7r8r9q30r1r2r3r4r5r6r7r8r9q40r1r2r3r4r5r6r7r8r9q50r1r2r3r4
r5r6r7r8r9q60r1r2r3r4r5r6r7r8r9q70r1p400-VASr1-VASr2-VASr3-VASr4-VASr5-VASr6-VASr7-VASr8-VASr9-VAS
q10-VASr1-VASr2-VASr3-VASr4-VASr5-VASr6-VASr7-VASr8-VASp501r2r3r4r5r6r8r9q10r1r2r3r5r6q20r1r3r4r5r6
r7r8r9q30r1r2r4r5r6r7r8r9q40r1r2r5r7r8r9q50r1r2r3r4r5r6r7r9q63r4r5r6r8r9q70r1r2r3r4r5r6r7r8r9q80r1r2
r3r4r5r6r7r8r9q91r2r4r5r6r8p600r1r2r3r4r6r8r9q10r1r2r3r4r5r6r7r8r9q20r1r2r3r4r6r7r8r9q34r7r8q40r2r3
r4r5r6r8r9q51r2r3r4r5r6r7r8r9q60r1r2r3r4=10740p701 Ar2 Br3 Dr4 Er5 Fr6 Hr7 Jr8 Kr9 Ls-2 L2t3 L3t4 L4
t6 L6q10 Wr1 Xr2 Yr3 OMEGAr4 ABBr5 BBr7 DDq26 EYYYq32 JE=10760p800r1r2r3r4r5r6r7
=10780aMODIFIER LETTER SMALL CAPITAL AArUPERSCRIPT TRIANGULAR COLON(HALF TRIANGULAR COLONrMALL AE
wCAPITAL BwB WITH HOOK=10787wDZ DIGRAPH, WITH RETROFLEX HOOK?CURLxEZH DIGRAPHx WITH TAIL)HOOK
. AND TAILwREVERSED EwCLOSED REVERSED OPEN EwFENG DIGRAPHwRAMS HORNwCAPITAL GwG WITH HOOK
wCAPITAL G WITH HOOKwH WITH STROKEwCAPITAL HwHENG WITH HOOKwDOTLESS J WITH STROKE AND HOOK
wLS DIGRAPHxZ DIGRAPHx WITH BELTwCAPITAL L WITH BELTwL WITH RETROFLEX HOOK AND BELTxEZH
! WITH RETROFLEX HOOKwTURNED Y* WITH BELTwO WITH STROKEwCAPITAL OExLOSED OMEGAwQ
wTURNED R WITH LONG LEG~ AND RETROFLEX HOOKwR WITH TAIL)FISHHOOKwCAPITAL RwTC DIGRAPH WITH CURL
xS DIGRAPH, WITH RETROFLEX HOOKxESH DIGRAPHx WITH RETROFLEX HOOKwV WITH RIGHT HOOK=107B2wCAPITAL Y
qGLOTTAL STOP WITH STROKEqREVERSED GLOTTAL STOP WITH STROKEqBILABIAL CLICKqDENTAL CLICK
qLATERAL CLICKqALVEOLAR CLICKqRETROFLEX CLICK WITH RETROFLEX HOOKqSMALL S WITH CURL
=10800aCYPRIOT SYLLABLE ArErIrOrUrJA=10808sO=1080ArKAsEsIsOsUrLAsEsIsOsUrMAsEsIsOsUrNAsEsIsOsUrPAsE
sIsOsUrRAsEsIsOsUrSAsEsIsOsUrTAsEsIsOsUrWAsEsIsO=10837rXAsE=1083CrZA=1083FsO
aIMPERIAL ARAMAIC LETTER ALEPHyBETHyGIMELyDALETHyHEyWAWyZAYINyHETHyTETHyYODHyKAPHyLAMEDHyMEMyNUN
ySAMEKHyAYINyPEySADHEyQOPHyRESHySHINyTAW=10857rSECTION SIGNrNUMBER ONEyTWOzHREEzENzWENTYyONE HUNDRED
(THOUSANDyTEN THOUSANDaPALMYRENE LETTER ALEPHrBETHrGIMELrDALETHrHErWAWrZAYINrHETHrTETHrYODHrKAPH
rLAMEDHrMEMrFINAL NUNrNUNrSAMEKHrAYINrPErSADHErQOPHrRESHrSHINrTAWmFT-POINTING FLEURON
kRIGHT-POINTING FLEURONkNUMBER ONErTWOsHREErFOURsIVErTENsWENTYaNABATAEAN LETTER FINAL ALEPHrALEPH
rFINAL BETHrBETHrGIMELrDALETHrFINAL HErHErWAWrZAYINrHETHrTETHrFINAL YODHrYODHrFINAL KAPHrKAPH
rFINAL LAMEDHrLAMEDHrFINAL MEMrMEMrFINAL NUNrNUNrSAMEKHrAYINrPErSADHErQOPHrRESHrFINAL SHINrSHINrTAW
=108A7kNUMBER ONErTWOsHREErFOURkCRUCIFORM NUMBER FOURkNUMBER FIVErTENsWENTYrONE HUNDRED
=108E0aHATRAN LETTER ALEPHoBETHoGIMELoDALETH-RESHoHEoWAWoZAYNoHETHoTETHoYODHoKAPHoLAMEDHoMEMoNUN
oSAMEKHoAYNoPEoSADHEoQOPH=108F4oSHINoTAW=108FBhNUMBER ONEoFIVEoTENpWENTYoONE HUNDRED
aPHOENICIAN LETTER ALFsBETsGAMLsDELTsHEsWAUsZAIsHETsTETsYODsKAFsLAMDsMEMsNUNsSEMKsAINsPEsSADEsQOF
sROSHsSHINsTAUlNUMBER ONEsTENtWENTYsONE HUNDREDsTWOtHREE=1091FlWORD SEPARATORaLYDIAN LETTER AoBoGoD
oEoVoIoYoKoLoMoNoOoRoSSoToUoFoQoSoTToANoENoLYoNNoC=1093FhTRIANGULAR MARK
=10980aMEROITIC HIEROGLYPHIC LETTER A)E)I)O)YA)WA)BA+-2)PA)MA)NA+-2*E+-2)RA+-2)LA)KHA)HHA)SA+-2*E)KA
)QA)TA+-2*E+-2*O)DAwSYMBOL VIDJ.-2jCURSIVE LETTER AyEyIyOyYAyWAyBAyPAyMAyNAzEyRAyLAyKHAyHHAySA
yARCHAIC SAySEyKAyQAyTAzEzOyDA=109BCrFRACTION ELEVEN TWELFTHS!ONE HALFrLOGOGRAM RMT!IMNrNUMBER ONE
yTWOzHREEyFOURzIVEySIXzEVENyEIGHTyNINEyTENzWENTYzHIRTYyFORTYzIFTYySIXTYzEVENTY=109D2yONE HUNDRED
yTWO HUNDREDzHREE HUNDREDyFOUR HUNDREDzIVE HUNDREDySIX HUNDREDzEVEN HUNDREDyEIGHT HUNDRED
yNINE HUNDREDyONE THOUSANDyTWO THOUSANDzHREE THOUSANDyFOUR THOUSANDzIVE THOUSANDySIX THOUSAND
zEVEN THOUSANDyEIGHT THOUSANDyNINE THOUSANDyTEN THOUSANDzWENTY THOUSANDzHIRTY THOUSAND
yFORTY THOUSANDzIFTY THOUSANDySIXTY THOUSANDzEVENTY THOUSANDyEIGHTY THOUSANDyNINETY THOUSAND
yONE HUNDRED THOUSANDyTWO HUNDRED THOUSANDzHREE HUNDRED THOUSANDyFOUR HUNDRED THOUSAND
zIVE HUNDRED THOUSANDySIX HUNDRED THOUSANDzEVEN HUNDRED THOUSANDyEIGHT HUNDRED THOUSAND
yNINE HUNDRED THOUSANDrFRACTION ONE TWELFTH!TWO TWELFTHS&HREE TWELFTHS!FOUR TWELFTHS&IVE TWELFTHS
!SIX TWELFTHS&EVEN TWELFTHS!EIGHT TWELFTHS!NINE TWELFTHS!TEN TWELFTHSaKHAROSHTHI LETTER A
lVOWEL SIGN IwUwVOCALIC R=10A05wEwO=10A0CrLENGTH MARKlSIGN DOUBLE RING BELOWqANUSVARAqVISARGA
lLETTER KAtHAsGAtHA=10A15sCAtHAsJA=10A19sNYAsTTAuHAsDDAuHAsNNAsTAtHAsDAtHAsNAsPAtHAsBAtHAsMAsYAsRA
sLAsVAsSHAtSAtAsZAsHAsKKAsTTTHAvAsVHA=10A38lSIGN BAR ABOVEqCAUDAqDOT BELOW=10A3FlVIRAMAlDIGIT ONE
rTWOsHREErFOURlNUMBER TENtWENTYsONE HUNDREDwTHOUSANDlFRACTION ONE HALF=10A50lPUNCTUATION DOT
xSMALL CIRCLExCIRCLEyRESCENT BARxMANGALAMxLOTUSxDANDAyOUBLE DANDAxLINES
=10A60aOLD SOUTH ARABIAN LETTER HEzLAMEDHzHETHzMEMzQOPHzWAWzSHINzRESHzBETHzTAWzSATzKAPHzNUNzKHETH
zSADHE&MEKHzFEzALEF!YNzDHADHEzGIMELzDALETHzGHAYNzTETHzZAYNzDHALETHzYODHzTHAW&ETHsNUMBER ONEzFIFTY
vERIC INDICATOReNORTH ARABIAN LETTER HEHzLAMzHAHzMEEMzQAFzWAWzES-2zREHzBEHzTEHzES-1zKAFzNOONzKHAH
zSADzES-3zFEHzALEF!INzDADzGEEMzDALzGHAINzTAHzZAINzTHALzYEHzTHEHzZAHsNUMBER ONEzTEN!WENTY
=10AC0aMANICHAEAN LETTER ALEPHsBETHtHETHsGIMELtHIMELsDALETHsHEsWAWlSIGN UDlLETTER ZAYINtHAYINsJAYIN
tHAYINsHETHsTETHsYODHsKAPHsXAPHsKHAPHsLAMEDHsDHAMEDHsTHAMEDHsMEMsNUNsSAMEKHsAYINtAYINsPEsFEsSADHE
sQOPHsXOPHsQHOPHsRESHsSHINtSHINsTAWlABBREVIATION MARK ABOVE)BELOW=10AEBlNUMBER ONEsFIVEsTENtWENTY
sONE HUNDREDlPUNCTUATION STARxFLEURONxDOUBLE DOT WITHIN DOTzT WITHIN DOT!xTWO DOTSxLINE FILLER
=10B00aAVESTAN LETTER AqAqOqAOqNqANqErEpEqEpOqOpIqIpUqUpKEpXEqYEqVEpGEqGEqHEpCEpJEpTEqHEpDEqHEpTTE
pPEpFEpBEqHEpNGErYErVEqEqYEqNEpMEpHMEpYYEqEpVEpREpLEpSEpZEpSHEpZHEpSHYEqSHEpHE
=10B39iABBREVIATION MARKaTINY TWO DOTS OVER ONE DOT PUNCTUATION
aSMALL TWO DOTS OVER ONE DOT PUNCTUATIONaLARGE TWO DOTS OVER ONE DOT PUNCTUATION
gONE DOT OVER TWO DOTS PUNCTUATIONgTWO RINGS OVER ONE RING PUNCTUATION
gONE RING OVER TWO RINGS PUNCTUATIONaINSCRIPTIONAL PARTHIAN LETTER ALEPH*BETH*GIMEL*DALETH*HE*WAW
*ZAYIN*HETH*TETH*YODH*KAPH*LAMEDH*MEM*NUN*SAMEKH*AYIN*PE*SADHE*QOPH*RESH*SHIN*TAW=10B58xNUMBER ONE
*TWO+HREE*FOUR*TEN+WENTY*ONE HUNDRED:THOUSANDqHLAVI LETTER ALEPH)BETH)GIMEL)DALETH)HE)WAW-AYIN-RESH
)ZAYIN)HETH)TETH)YODH)KAPH)LAMEDH)MEM-QOPH)NUN)SAMEKH)PE)SADHE*HIN)TAW=10B78wNUMBER ONE)TWO*HREE
)FOUR)TEN*WENTY)ONE HUNDRED.THOUSANDaPSALTER PAHLAVI LETTER ALEPHxBETHxGIMELxDALETHxHExWAW-AYIN-RESH
xZAYINxHETHxYODHxKAPHxLAMEDHxMEM-QOPHxNUNxSAMEKHxPExSADHEyHINxTAW=10B99qSECTION MARK
qTURNED SECTION MARKqFOUR DOTS WITH CROSS+DOT=10BA9qNUMBER ONExTWOyHREExFOURxTENyWENTYxONE HUNDRED
=10C00aOLD TURKIC LETTER ORKHON AsYENISEI A&EsORKHON IsYENISEI I!EsORKHON O!EsYENISEI OEsORKHON AB
sYENISEI ABsORKHON AEBsYENISEI AEBsORKHON AGsYENISEI AGsORKHON AEGsYENISEI AEGsORKHON ADsYENISEI AD
sORKHON AEDzEZsYENISEI EZsORKHON AYsYENISEI AYsORKHON AEYsYENISEI AEYsORKHON AEKsYENISEI AEK
sORKHON OEKsYENISEI OEKsORKHON ALsYENISEI ALsORKHON AELzELT!MzAN!ENsYENISEI AENsORKHON ENT
sYENISEI ENTsORKHON ENCsYENISEI ENCsORKHON ENYsYENISEI ENY!ANGsORKHON ENGsYENISEI AENGsORKHON EPzOP
zICzECsYENISEI ECsORKHON AQsYENISEI AQsORKHON IQsYENISEI IQsORKHON OQsYENISEI OQsORKHON AR
sYENISEI ARsORKHON AER!S!ES!SHsYENISEI ASHsORKHON ESHsYENISEI ESHsORKHON ATsYENISEI ATsORKHON AET
sYENISEI AETsORKHON OTzBASH=10C80eHUNGARIAN CAPITAL LETTER A*A)EB)AMB)EC*NC*CS*D)AND)E)CLOSE E)EE*F
*G+Y*H)I*I)EJ*K)AK)UNK)EL+Y*M*N+Y)O*O)NIKOLSBURG OE)RUDIMENTA OE)OEE)EP*MP*R)SHORT ER)ES+Z*T*NT*TY
*CH)U*U)NIKOLSBURG UE)RUDIMENTA UE)EV*Z+S*NT-SHAPED SIGN)US=10CC0oSMALL LETTER A(A&EB&AMB&EC(NC(CS(D
&AND&E&CLOSE E&EE(F(G)Y(H&I(I&EJ(K&AK&UNK&EL)Y(M(N)Y&O(O&NIKOLSBURG OE&RUDIMENTA OE&OEE&EP(MP(R
&SHORT ER&ES)Z(T(NT(TY(CH&U(U&NIKOLSBURG UE&RUDIMENTA UE&EV(Z)S(NT-SHAPED SIGN&US=10CFAoNUMBER ONE
vFIVEvTENvFIFTYvONE HUNDREDzTHOUSANDaHANIFI ROHINGYA LETTER AxBAxPAxTAyTAxJAxCAxHAxKHAxFAxDAyDAxRA
yRAxZAxSAyHAxKAxGAxLAxMAxNAxWAxKINNA WAxYAxKINNA YAxNGAyYAxVAqVOWEL AwIwUwEwOqMARK SAKINvNA KHONNA
qSIGN HARBAHAYvTAHALAxNAxSSI=10D30qDIGIT ZEROwONEwTWOxHREEwFOURxIVEwSIXxEVENwEIGHTwNINE
=10E60aRUMI DIGIT ONElTWOmHREElFOURmIVElSIXmEVENlEIGHTlNINEfNUMBER TENnWENTYnHIRTYmFORTYnIFTYmSIXTY
nEVENTYmEIGHTYmNINETYmONE HUNDREDmTWO HUNDREDnHREE HUNDREDmFOUR HUNDREDnIVE HUNDREDmSIX HUNDRED
nEVEN HUNDREDmEIGHT HUNDREDmNINE HUNDREDfFRACTION ONE HALFsQUARTERsTHIRDoTWO THIRDS
=10E80aYEZIDI LETTER ELIFoBEoPEpHEoTHEoSEoCIMpHIMqHIMoHHAoXAoDALoZALoRApHAoZAoJAoSINpHINpADoDADoTA
oZEoEYNoXHEYNoFAoVAq ALTERNATE FORMoQAFoKAFpHAFoGAFoLAMoMIMoNUNoUMoWAWoOWoEWoHAYoYOToET
=10EABhCOMBINING HAMZA MARKrMADDA MARKhHYPHENATION MARK=10EB0hLETTER LAM WITH DOT ABOVE
oYOT WITH CIRCUMFLEX ABOVE=10F00aOLD SOGDIAN LETTER ALEPHtFINAL ALEPHtBETHtFINAL BETHtGIMELtHE
tFINAL HEtWAWtZAYINtHETHtYODHtKAPHtLAMEDHtMEMtNUNtFINAL NUN( WITH VERTICAL TAILtSAMEKHtAYIN
uLTERNATE AYINtPEtSADHEtFINAL SADHE* WITH VERTICAL TAILtRESH-AYIN-DALETHtSHINtTAWtFINAL TAW
( WITH VERTICAL TAILmNUMBER ONEtTWOuHREEtFOURuIVEtTENuWENTYuHIRTYtONE HUNDREDmFRACTION ONE HALF
mLIGATURE AYIN-DALETH=10F30aSOGDIAN LETTER ALEPHpBETHpGIMELpHEpWAWpZAYINpHETHpYODHpKAPHpLAMEDHpMEM
pNUNpSAMEKHpAYINpPEpSADHEpRESH-AYINpSHINpTAWpFETHpLESHiINDEPENDENT SHINiCOMBINING DOT BELOW
sTWO DOTS BELOWsDOT ABOVEsTWO DOTS ABOVEsCURVE ABOVEyBELOWsHOOK ABOVExBELOWsLONG HOOK BELOW
sRESH BELOWsSTROKE BELOWiNUMBER ONEpTENqWENTYpONE HUNDREDiPUNCTUATION TWO VERTICAL BARS> WITH DOTS
uCIRCLE WITH DOTuTWO CIRCLES WITH DOTSuHALF CIRCLE WITH DOT=10F70aOLD UYGHUR LETTER ALEPHsBETH
sGIMEL-HETHsWAWsZAYINsFINAL HETHsYODHsKAPHsLAMEDHsMEMsNUNsSAMEKHsPEsSADHEsRESHsSHINsTAWsLESH
lCOMBINING DOT ABOVEzBELOWvTWO DOTS ABOVE*BELOWlPUNCTUATION BARxTWO BARS&DOTSxFOUR DOTS
=10FB0aCHORASMIAN LETTER ALEPHsSMALL ALEPHsBETHsGIMELsDALETHsHEsWAWsCURLED WAWsZAYINsHETHsYODHsKAPH
sLAMEDHsMEMsNUNsSAMEKHsAYINsPEsRESHsSHINsTAWlNUMBER ONEsTWOtHREEsFOURsTENtWENTYsONE HUNDRED
=10FE0aELYMAIC LETTER ALEPHpBETHpGIMELpDALETHpHEpWAWpZAYINpHETHpTETHpYODHpKAPHpLAMEDHpMEMpNUNpSAMEKH
pAYINpPEpSADHEpQOPHpRESHpSHINpTAWjIGATURE ZAYIN-YODH=11000aBRAHMI SIGN CANDRABINDUmANUSVARAmVISARGA
mJIHVAMULIYAmUPADHMANIYAhLETTER ApAoIpIoUpUoVOCALIC RxRwLxLoEoAIoOoAUoKApHAoGApHAoNGAoCApHAoJApHA
oNYAoTTAqHAoDDAqHAoNNAoTApHAoDApHAoNAoPApHAoBApHAoMAoYAoRAoLAoVAoSHApSApAoHAoLLAoOLD TAMIL LLLAyRRA
yNNNAhVOWEL SIGN AAsBHATTIPROLU AAsItIsUtUsVOCALIC R&R!L&LsEsAIsOsAUiIRAMAhDANDAiOUBLE DANDA
hPUNCTUATION DOTvUBLE DOTtLINEtCRESCENT BARtLOTUS=11052hNUMBER ONEoTWOpHREEoFOURpIVEoSIXpEVENoEIGHT
oNINEoTENpWENTYpHIRTYoFORTYpIFTYoSIXTYpEVENTYoEIGHTYoNINETYoONE HUNDREDsTHOUSANDhDIGIT ZEROnONEnTWO
oHREEnFOURoIVEnSIXoEVENnEIGHTnNINEhSIGN OLD TAMIL VIRAMAhLETTER OLD TAMIL SHORT E*O
hVOWEL SIGN OLD TAMIL SHORT E:OhLETTER OLD TAMIL LLA=1107FhNUMBER JOINERaKAITHI SIGN CANDRABINDU
mANUSVARAmVISARGAhLETTER ApAoIpIoUpUoEoAIoOoAUoKApHAoGApHAoNGAoCApHAoJApHAoNYAoTTAqHAoDDAqDHAqHAoRHA
oNNAoTApHAoDApHAoNAoPApHAoBApHAoMAoYAoRAoLAoVAoSHApSApAoHAhVOWEL SIGN AAsItIsUtUsEsAIsOsAU
hSIGN VIRAMAmNUKTAhABBREVIATION SIGNhENUMERATION SIGNhNUMBER SIGNhSECTION MARKhDOUBLE SECTION MARK
iANDAiOUBLE DANDAhVOWEL SIGN VOCALIC R=110CDhNUMBER SIGN ABOVE=110D0aSORA SOMPENG LETTER SAHuTAHuBAH
uCAHuDAHuGAHuMAHuNGAHuLAHuNAHuVAHuPAHuYAHuRAHuHAHuKAHuJAHuNYAHuAHuEEHuIHuUHuOHuEHuMAE
=110F0nDIGIT ZEROtONEtTWOuHREEtFOURuIVEtSIXuEVENtEIGHTtNINE=11100aCHAKMA SIGN CANDRABINDUmANUSVARA
mVISARGAhLETTER AAoIoUoEoKAApHAAoGAApHAAoNGAAoCAApHAAoJAApHAAoNYAAoTTAAqHAAoDDAAqHAAoNNAAoTAApHAA
oDAApHAAoNAAoPAApHAAoBAApHAAoMAAoYYAApAAoRAAoLAAoWAAoSAAoHAAhVOWEL SIGN AsItIsUtUsEsAIsOsAUsOI
hO MARKhAU MARKhVIRAMAhMAAYYAA=11136hDIGIT ZEROnONEnTWOoHREEnFOURoIVEnSIXoEVENnEIGHTnNINE
hSECTION MARKhDANDAiOUBLE DANDAhQUESTION MARKhLETTER LHAAhVOWEL SIGN AAsEIhLETTER VAA
=11150aMAHAJANI LETTER AqIqUqEqOqKArHAqGArHAqCArHAqJArHAqNYAqTTAsHAqDDAsHAqNNAqTArHAqDArHAqNAqPArHA
qBArHAqMAqRAqLAqVAqSAqHAqRRAjSIGN NUKTAjABBREVIATION SIGNjSECTION MARKjLIGATURE SHRI
=11180aSHARADA SIGN CANDRABINDUnANUSVARAnVISARGAiLETTER AqApIqIpUqUpVOCALIC RyRxLyLpEpAIpOpAUpKAqHA
pGAqHApNGApCAqHApJAqHApNYApTTArHApDDArHApNNApTAqHApDAqHApNApPAqHApBAqHApMApYApRApLAqLApVApSHAqSAqA
pHAiVOWEL SIGN AAtIuItUuUtVOCALIC R(R&L(LtEtAItOtAUiSIGN VIRAMAnAVAGRAHAnJIHVAMULIYAnUPADHMANIYAiOM
iDANDAjOUBLE DANDAiABBREVIATION SIGNiSEPARATORjANDHI MARKjIGN NUKTAiVOWEL MODIFIER MARK
iEXTRA SHORT VOWEL MARKiSUTRA MARKiVOWEL SIGN PRISHTHAMATRA EiSIGN INVERTED CANDRABINDUiDIGIT ZERO
oONEoTWOpHREEoFOURpIVEoSIXpEVENoEIGHToNINEiEKAMiSIGN SIDDHAMiHEADSTROKEiCONTINUATION SIGN
iSECTION MARK-1v2=111E1bINHALA ARCHAIC DIGIT ONEwTWOxHREEwFOURxIVEwSIXxEVENwEIGHTwNINEqNUMBER TEN
yWENTYyHIRTYxFORTYyIFTYxSIXTYyEVENTYxEIGHTYxNINETYxONE HUNDRED&THOUSAND=11200aKHOJKI LETTER ApAoIoU
oEoAIoOoAUoKApHAoGApGApHAoNGAoCApHAoJApJA=11213oNYAoTTAqHAoDDAqHAoNNAoTApHAoDApDDApHAoNAoPApHAoBApBA
pHAoMAoYAoRAoLAoVAoSAoHAoLLAhVOWEL SIGN AAsItIsUsEsAIsOsAUhSIGN ANUSVARAmVIRAMAmNUKTAmSHADDAhDANDA
iOUBLE DANDAhWORD SEPARATORhSECTION MARKhDOUBLE SECTION MARKhABBREVIATION SIGNhSIGN SUKUN
=11280aMULTANI LETTER ApIpUpEpKAqHApGA=11288qHA=1128ApCAqHApJAqJA=1128FpNYApTTArHApDDArDArHApNNApTA
qHApDAqHApNApPAqHApBA=1129FqHApMApYApRApLApVApSApHApRRAqHAiSECTION MARK=112B0aKHUDAWADI LETTER AsArI
sIrUsUrErAIrOrAUrKAsHArGAsGAsHArNGArCAsHArJAsJAsHArNYArTTAtHArDDAtDArRRArDDHArNNArTAsHArDAsHArNArPA
sHArBAsBAsHArMArYArRArLArVArSHAsArHAkSIGN ANUSVARAkVOWEL SIGN AAvIwIvUwUvEvAIvOvAUkSIGN NUKTApVIRAMA
=112F0kDIGIT ZEROqONEqTWOrHREEqFOURrIVEqSIXrEVENqEIGHTqNINE
=11300aGRANTHA SIGN COMBINING ANUSVARA ABOVEoANDRABINDUnANUSVARAnVISARGA=11305iLETTER AqApIqIpUqU
pVOCALIC RxL=1130FpEEpAI=11313pOOpAUpKAqHApGAqHApNGApCAqHApJAqHApNYApTTArHApDDArHApNNApTAqHApDAqHA
pNA=1132ApPAqHApBAqHApMApYApRA=11332pLAqLA=11335pVApSHAqSAqApHA=1133BaCOMBINING BINDU BELOW
aGRANTHA SIGN NUKTAnAVAGRAHAiVOWEL SIGN AAtIuItUuUtVOCALIC R(R=11347tEEtAI=1134BtOOtAUiSIGN VIRAMA
=11350iOM=11357iAU LENGTH MARK=1135DiSIGN PLUTAiLETTER VEDIC ANUSVARAvDOUBLE ANUSVARAqOCALIC RRxLL
iVOWEL SIGN VOCALIC L(L=11366aCOMBINING GRANTHA DIGIT ZEROyONEyTWOzHREEyFOURzIVEySIX=11370sLETTER A
zKAzNAzVIzPA=11400aNEWA LETTER AnAmInImUnUmVOCALIC RvRuLvLmEmAImOmAUmKAnHAmGAnHAmNGAoHAmCAnHAmJAnHA
mNYAoHAmTTAoHAmDDAoHAmNNAmTAnHAmDAnHAmNAnHAmPAnHAmBAnHAmMAnHAmYAmRAnHAmLAnHAmWAmSHAnSAnAmHA
fVOWEL SIGN AAqIrIqUrUqVOCALIC RzRyLzLqEqAIqOqAUfSIGN VIRAMAkCANDRABINDUkANUSVARAkVISARGAkNUKTA
kAVAGRAHAkFINAL ANUSVARAfOMfSIDDHIfDANDAgOUBLE DANDAfCOMMAfGAP FILLERfABBREVIATION SIGNfDIGIT ZERO
lONElTWOmHREElFOURmIVElSIXmEVENlEIGHTlNINEgOUBLE COMMAfPLACEHOLDER MARK=1145DfINSERTION SIGN
fSANDHI MARKfLETTER VEDIC ANUSVARAfSIGN JIHVAMULIYAkUPADHMANIYA=11480aTIRHUTA ANJIiLETTER AqApIqIpU
qUpVOCALIC RyRxLyLpEpAIpOpAUpKAqHApGAqHApNGApCAqHApJAqHApNYApTTArHApDDArHApNNApTAqHApDAqHApNApPAqHA
pBAqHApMApYApRApLApVApSHAqSAqApHAiVOWEL SIGN AAtIuItUuUtVOCALIC R(R&L(LtEtSHORT EtAItOtSHORT OtAU
iSIGN CANDRABINDUnANUSVARAnVISARGApRAMAnNUKTAnAVAGRAHAiGVANGiABBREVIATION SIGNiOM=114D0iDIGIT ZERO
oONEoTWOpHREEoFOURpIVEoSIXpEVENoEIGHToNINE=11580aSIDDHAM LETTER AqApIqIpUqUpVOCALIC RyRxLyLpEpAIpO
pAUpKAqHApGAqHApNGApCAqHApJAqHApNYApTTArHApDDArHApNNApTAqHApDAqHApNApPAqHApBAqHApMApYApRApLApVApSHA
qSAqApHAiVOWEL SIGN AAtIuItUuUtVOCALIC R(R=115B8tEtAItOtAUiSIGN CANDRABINDUnANUSVARAnVISARGApRAMA
nNUKTAnSIDDHAMiDANDAjOUBLE DANDAiSEPARATOR DOTsBARiREPETITION MARK-1y2y3iEND OF TEXT MARK
iSECTION MARK WITH TRIDENT AND U-SHAPED ORNAMENTS?DOTTED CRESCENTS!RAYS AND DOTTED CRESCENTS
_DOUBLE CRESCENTS_TRIPLE CRESCENTSvDOUBLE RING, WITH RAYSvWITH DOUBLE CRESCENTS!TRIPLE CRESCENTS
!QUADRUPLE CRESCENTS!SEPTUPLE CRESCENTS!CIRCLES AND RAYS?TWO ENCLOSURES?FOUR ENCLOSURES
iLETTER THREE-CIRCLE ALTERNATE IqWO-CIRCLE ALTERNATE I>IpALTERNATE UiVOWEL SIGN ALTERNATE U*U
=11600aMODI LETTER AnAmInImUnUmVOCALIC RvRuLvLmEmAImOmAUmKAnHAmGAnHAmNGAmCAnHAmJAnHAmNYAmTTAoHAmDDA
oHAmNNAmTAnHAmDAnHAmNAmPAnHAmBAnHAmMAmYAmRAmLAmVAmSHAnSAnAmHAmLLAfVOWEL SIGN AAqIrIqUrUqVOCALIC RzR
yLzLqEqAIqOqAUfSIGN ANUSVARAkVISARGAmRAMAkARDHACANDRAfDANDAgOUBLE DANDAfABBREVIATION SIGNfSIGN HUVA
=11650fDIGIT ZEROlONElTWOmHREElFOURmIVElSIXmEVENlEIGHTlNINE=11660cNGOLIAN BIRGA WITH ORNAMENT
kROTATED BIRGAkDOUBLE BIRGA WITH ORNAMENTkTRIPLE BIRGA WITH ORNAMENTkBIRGA WITH DOUBLE ORNAMENT
kROTATED BIRGA WITH ORNAMENT)DOUBLE ORNAMENTkINVERTED BIRGAy WITH DOUBLE ORNAMENTkSWIRL BIRGA
v WITH ORNAMENT&DOUBLE ORNAMENTkTURNED SWIRL BIRGA WITH DOUBLE ORNAMENT=11680aTAKRI LETTER AoAnIoInU
oUnEnAInOnAUnKAoHAnGAoHAnNGAnCAoHAnJAoHAnNYAnTTApHAnDDApHAnNNAnTAoHAnDAoHAnNAnPAoHAnBAoHAnMAnYAnRA
nLAnVAnSHAoAnHAnRRAgSIGN ANUSVARAlVISARGAgVOWEL SIGN AArIsIrUsUrErAIrOrAUgSIGN VIRAMAlNUKTA
gLETTER ARCHAIC KHAgABBREVIATION SIGN=116C0gDIGIT ZEROmONEmTWOnHREEmFOURnIVEmSIXnEVENmEIGHTmNINE
=11700aAHOM LETTER KAnHAmNGAnAmTAmALTERNATE TAmPAnHAmBAmMAmJAmCHAmTHAmRAmLAmSAmNYAmHAmAmDAnHAmGA
mALTERNATE GAmGHAmBHAmJHAmALTERNATE BA=1171DfCONSONANT SIGN MEDIAL LA&RA&LIGATING RAfVOWEL SIGN ArA
qIrIqUrUqEqAWqOqAIrMfSIGN KILLER=11730fDIGIT ZEROlONElTWOmHREElFOURmIVElSIXmEVENlEIGHTlNINE
fNUMBER TENnWENTYfSIGN SMALL SECTIONlECTIONkRULAIgYMBOL VIfLETTER CAmTTAoHAmDDAoHAmNNAmLLA
=11800aDOGRA LETTER AoAnIoInUoUnEnAInOnAUnKAoHAnGAoHAnNGAnCAoHAnJAoHAnNYAnTTApHAnDDApHAnNNAnTAoHAnDA
oHAnNAnPAoHAnBAoHAnMAnYAnRAnLAnVAnSHAoSAoAnHAnRRAgVOWEL SIGN AArIsIrUsUrVOCALIC R!RrErAIrOrAU
gSIGN ANUSVARAlVISARGAnRAMAlNUKTAgABBREVIATION SIGN=118A0aWARANG CITI CAPITAL LETTER NGAA&A&WI&YU(A
(O&II&UU&E&O&ANG&GA&KO&ENY&YUJ&UC&ENN&ODD&TTE&NUNG&DA&AT(M&BU&PU&HIYO(OLO)RR(AR&SSUU(II&VIYO
mSMALL LETTER NGAAzAzWIzYU!A!OzIIzUUzEzOzANGzGAzKOzENYzYUJzUCzENNzODDzTTEzNUNGzDAzAT!MzBUzPUzHIYO
!OLO&RR!ARzSSUU!IIzVIYOmDIGIT ZEROsONEsTWOtHREEsFOURtIVEsSIXtEVENsEIGHTsNINEmNUMBER TENuWENTYuHIRTY
tFORTYuIFTYtSIXTYuEVENTYtEIGHTYtNINETY=118FFmOMaDIVES AKURU LETTER AuAtIuItUuUtE=11909tO=1190CtKAuHA
tGAuHAtNGAtCAuHAtJA=11915tNYAtTTA=11918tDDAvHAtNNAtTAuHAtDAuHAtNAtPAuHAtBAuHAtMAtYAuYAtRAtLAtVAtSHA
uSAuAtHAtLLAtZAmVOWEL SIGN AAxIyIxUyUxE=11937xAIxO=1193BmSIGN ANUSVARArCANDRABINDUrHALANTAmVIRAMA
mPREFIXED NASAL SIGNmMEDIAL YAmINITIAL RAmMEDIAL RAmSIGN NUKTAmDOUBLE DANDAmGAP FILLER
mEND OF TEXT MARK=11950mDIGIT ZEROsONEsTWOtHREEsFOURtIVEsSIXtEVENsEIGHTsNINE
=119A0aNANDINAGARI LETTER AuAtIuItUuUtVOCALIC R(R=119AAtEtAItOtAUtKAuHAtGAuHAtNGAtCAuHAtJAuHAtNYA
tTTAvHAtDDAvHAtNNAtTAuHAtDAuHAtNAtPAuHAtBAuHAtMAtYAtRAtLAtVAtSHAuSAuAtHAtLLAtRRAmVOWEL SIGN AAxIyIxU
yUxVOCALIC R,R=119DAxExAIxOxAUmSIGN ANUSVARArVISARGAtRAMArAVAGRAHArSIDDHAMmHEADSTROKE
mVOWEL SIGN PRISHTHAMATRA E=11A00aZANABAZAR SQUARE LETTER ArVOWEL SIGN I(UE)(E(OE)(AI)U(REVERSED I
xLENGTH MARKrLETTER KAzHAyGAzHAyNGAyCAzHAyJAyNYAyTTA!HAyDDA!HAyNNAyTAzHAyDAzHAyNAyPAzHAyBAzHAyMAyTSA
!HAyDZA!HAyZHAzAy-AyYAyRAyLAyVAySHAzSAzAyHAyKSSArFINAL CONSONANT MARKrSIGN VIRAMAwCANDRABINDU
. WITH ORNAMENT( WITH ORNAMENTwANUSVARAwVISARGArCLUSTER-INITIAL LETTER RAzFINAL LETTER YA?RA?LA?VA
rINITIAL HEAD MARKrCLOSING HEAD MARKrMARK TSHEGwSHADwDOUBLE SHADwLONG TSHEG
rINITIAL DOUBLE-LINED HEAD MARKrCLOSING DOUBLE-LINED HEAD MARKrSUBJOINER=11A50aSOYOMBO LETTER A
iVOWEL SIGN ItUEutEtOuEtAIuUtVOCALIC R&LoLENGTH MARKiLETTER KAqHApGAqHApNGApCAqHApJAqHApNYApTTArHA
pDDArHApNNApTAqHApDAqHApNApPAqHApBAqHApMApTSArHApDZApZHAqAp-ApYApRApLApVApSHAqSAqApHApKSSA
iSIGN JIHVAMULIYAnUPADHMANIYAiCLUSTER-INITIAL LETTER RA+LA+SHA,AiFINAL CONSONANT SIGN G)K)NG)D)N)B)M
)R)L)SH*)-AiSIGN ANUSVARAnVISARGAiGEMINATION MARKiSUBJOINERiMARK TSHEGnSHADnDOUBLE SHADnPLUTA
iHEAD MARK WITH MOON AND SUN AND TRIPLE FLAME]FLAME;iTERMINAL MARK-1w2
=11AB0aCANADIAN SYLLABICS NATTILIK HI*I)O*O)A*A(SHRI,I+O,O+A,AtSPEvIvOvAaPAU CIN HAU LETTER PAtKAtLA
tMAtDAtZAtVAtNGAtHAtGAtKHAtSAtBAtCAtTAuHAtNAtPHAtRAtFAtCHAtAtEtItOtUuAtIAtFINAL PzKzTzMzNzLzWzNGzY
mRISING TONE LONGxmSANDHI GLOTTAL STOPmRISING TONE LONG FINALyFINALmSANDHI GLOTTAL STOP FINAL
tTONE LONGxx LONG FINALyFINALmMID-LEVEL TONEmGLOTTAL STOP VARIANTmMID-LEVEL TONE LONG FINAL&FINAL
mLOW-FALLING TONE LONG(mGLOTTAL STOPmLOW-FALLING TONE LONG FINAL)FINALmGLOTTAL STOP FINAL
=11C00aBHAIKSUKI LETTER AsArIsIrUsUrVOCALIC R!RzL=11C0ArErAIrOrAUrKAsHArGAsHArNGArCAsHArJAsHArNYA
rTTAtHArDDAtHArNNArTAsHArDAsHArNArPAsHArBAsHArMArYArRArLArVArSHAsSAsArHAkVOWEL SIGN AAvIwIvUwU
vVOCALIC R*R)L=11C38vEvAIvOvAUkSIGN CANDRABINDUpANUSVARApVISARGArRAMApAVAGRAHAkDANDAlOUBLE DANDA
kWORD SEPARATORkGAP FILLER-1v2=11C50kDIGIT ZEROqONEqTWOrHREEqFOURrIVEqSIXrEVENqEIGHTqNINEkNUMBER ONE
rTWOsHREErFOURsIVErSIXsEVENrEIGHTrNINErTENsWENTYsHIRTYrFORTYsIFTYrSIXTYsEVENTYrEIGHTYrNINETY
kHUNDREDS UNIT MARK=11C70aMARCHEN HEAD MARKiMARK SHADiLETTER KAqHApGApNGApCAqHApJApNYApTAqHApDApNA
pPAqHApBApMApTSArHApDZApWApZHAqAp-ApYApRApLApSHAqApHApA=11C92iSUBJOINED LETTER KA!HAzGAzNGAzCA!HAzJA
zNYAzTA!HAzDAzNAzPA!HAzBAzMAzTSA&HAzDZAzWAzZHA!A=11CA9zYAzRAzLAzSHA!AzHAzAiVOWEL SIGN AAtItUtEtO
iSIGN ANUSVARAnCANDRABINDU=11D00cSARAM GONDI LETTER AwAvIwIvUwUvE=11D08vAIvO=11D0BvAUvKAwHAvGAwHA
vNGAvCAwHAvJAwHAvNYAvTTAxHAvDDAxHAvNNAvTAwHAvDAwHAvNAvPAwHAvBAwHAvMAvYAvRAvLAvVAvSHAwSAwAvHAvLLA
vKSSAvJNYAvTRAoVOWEL SIGN AAzI!IzU!UzVOCALIC R=11D3AzE=11D3CzAIzO=11D3FzAUoSIGN ANUSVARAtVISARGA
tNUKTAtCANDRAtHALANTAoVIRAMAoREPHApA-KARA=11D50oDIGIT ZEROuONEuTWOvHREEuFOURvIVEuSIXvEVENuEIGHTuNINE
=11D60aGUNJALA GONDI LETTER AwAvIwIvUwU=11D67vEEvAI=11D6AvOOvAUvYAvVAvBAwHAvMAvKAwHAvTAwHAvLAvGAwHA
vDAwHAvNAvCAwHAvTTAxHAvLLAvJAwHAvDDAxHAvNGAvPAwHAvHAvRAvSAoVOWEL SIGN AAzI!IzU!U=11D90zEEzAI
=11D93zOOzAUoSIGN ANUSVARAtVISARGAoVIRAMAoOM=11DA0oDIGIT ZEROuONEuTWOvHREEuFOURvIVEuSIXvEVENuEIGHT
uNINE=11EE0aMAKASAR LETTER KApGApNGApPApBApMApTApDApNApCApJApNYApYApRApLApVApSApAiANGKAiVOWEL SIGN I
tUtEtOiPASSIMBANGiEND OF SECTION=11FB0aLISU LETTER YHA
=11FC0aTAMIL FRACTION ONE THREE-HUNDRED-AND-TWENTIETHtONE-HUNDRED-AND-SIXTIETHtEIGHTIETH
tSIXTY-FOURTHtFORTIETHtTHIRTY-SECONDpTHREE EIGHTIETHSvSIXTY-FOURTHSpONE TWENTIETHtSIXTEENTH-1)2
tTENTHtEIGHTHpTHREE TWENTIETHSvSIXTEENTHSpONE FIFTHtQUARTERtHALF-1y2pTHREE QUARTERS
pDOWNSCALING FACTOR KIIZHgSIGN NELlCEVITUlAAZHAAKKUlUZHAKKUlMUUVUZHAKKUlKURUNIlPATHAKKUlMUKKURUNI
lKAACUlPANAMmONlVARAAKANlPAARAMlKUZHIlVELIgWET CULTIVATION SIGNgDRY CULTIVATION SIGNgLAND SIGN
gSALT PAN SIGNgTRADITIONAL CREDIT SIGNsNUMBER SIGNgCURRENT SIGNgAND ODD SIGNgSPENT SIGNgTOTAL SIGN
gIN POSSESSION SIGNgSTARTING FROM SIGNhIGN MUTHALIYAlVAKAIYARAA=11FFFgPUNCTUATION END OF TEXT
aCUNEIFORM SIGN Aq TIMES AxBADxGAN2 TENUxHAxIGIxLAGAR GUNUxMUSHxSAGq2qBr TIMES ASH2yDUN3 GUNUyGAL
!N2 TENUyHAyIGI GUNUzMINyLAGABySHESHyU PLUS U PLUS UsGUNUr2s TIMES BALAGzGAN2 TENUzME PLUS ENzSHA3
zTAK4qDqKr TIMES ERIN2ySHITA PLUS GISHqLr TIMES ALyDIM2yGISHyHAyKAD3zIySHEyUSHrANrEPHqMARt TIMES SHE
qNr OVER ANsTHREE TIMESsPLUS NAGA OPPOSING AN PLUS NAGA(SQUAREDrSHEqPINqRADt TIMES KURrKABqSAL2rH
s ZIDA TENUtKABA TENUtOVER ASH TUG2 OVER TUG2 TUG2 OVER TUG2 PAP(OVER ASH
< CROSSING ASH OVER ASH OVER ASHs2sGABpBArDrG3rHAR2rLs OVER BALsAGrRsA2qIr TIMES AyGARyIGI GUNUqU
r OVER BU AB!UNsCROSSING BUrLUGu OVER BULUGrRs2pDArGs KISIM5 TIMES A PLUS MASH.MAR,BALAG.I,GA
: PLUS MASH.I:R2.UD,HA,IR: PLUS LU,KAK,LA.U: PLUS MASH2:M,NE,PAP PLUS PAP,SI,TAK4,U2 PLUS GIR2.SHrM
rRsA3t4qIrBrMs TIMES SHEs2rNs KASKAL U GUNU DISHrSHqUr OVER DUsGUNUsSHESHIGrBs TIMES ESH2s2rGsUDrHrN
s3t GUNUy GUNUs4rR2pEq TIMES PAPrOVER E NUN OVER NUNq2r TIMES A PLUS HA PLUS DAyGARyMIySALzHEyUqDIN
qGIRqLqNr TIMES GAN2( TENUyMEsCROSSING ENsOPPOSING ENsSQUAREDqRENrIN2qSH2qZENt TIMES A& PLUS LAL
< TIMES LAL&N!BAD!DUN3 GUNU; GUNU!HA( GUNU!IGI GUNU!KASKAL, SQUARED&U3!LA(L TIMES LAL&I&U!U2&DpGA
r GUNUr2s TIMES A PLUS DA PLUS HA,HA,IGI!B2 TENU PLUS TAB!N!SH(2 PLUS GALzBAD&R PLUS RA!UR( PLUS RA
zDA!I&M TIMES SHE!UBzEL& PLUS LA!N& TIMES GAN2 TENUzGAN2 TENU&R!I&4( PLUS A&R2 PLUS SU
zHA PLUS LU PLUS ESH2&L( PLUS LA!I PLUS LI!UB2zIGI GUNU!SH PLUS HU PLUS ASHzKAK&SKAL!ID( PLUS LAL
!U3 PLUS ANzLAzME PLUS EN!IzNUN( OVER NUNzPAzSAL&R!HE( PLUS TUR&ID!UMzTAK4zU!D& PLUS DUtOVER GA2rBA
t CROSSING GABArDs OVER GAD GAR OVER GARrLs GAD OVER GAD GAR OVER GARsAMrMrNs2t TENUuOVER GAN2
uCROSSING GAN2rRs3rSHANqESHTINw TIMES KURqIr TIMES EyUsCROSSING GIr4s OVER GI4tCROSSING GI4rDIMrR2
t GUNUs3t TIMES A PLUS IGI!GAN2 TENU!IGI!LU PLUS IGI!PArSALsHt CROSSING GISHuTIMES BAD!TAK4vENUqU
r CROSSING GUr2s TIMES KAK( TIMES IGI GUNUzNUNzSAL PLUS TUG2tGUNUrDs TIMES A PLUS KURzKUR
tOVER GUD LUGALrLrMs TIMES SHErRs7sUNtSHpHAr TENUsGUNUrLqIr TIMES ASH&2yBADyDISHyGADyKINyNUNySHEyUqU
rB2t TIMES AN!HAL!KASKAL!LISH!UDrL2pIq AqBqDIMt OVER IDIM BUR*SQUAREDqGrIs DIBtRI
tOVER IGI SHIR OVER SHIR UD OVER UDtGUNUqLr TIMES GAN2 TENUr2qMr TIMES TAK4sCROSSING IMsOPPOSING IM
sSQUAREDrINqNqRqSHpKAr TIMES AzD! PLUS KU3zSH2yBAD!LAG!RzIyERIN2zSH2yGA!L!N2 TENU!R
& PLUS SHA3 PLUS AzI!R2!SH PLUS SAR)CROSSING GISHzU!R7yIGIzMyKAKzI!DyLIzUyME! PLUS DU,GI,TEzI
! PLUS NUNUZyNEzUNyPIyRUySA!RzHA!E!ID!UzIGzUHURyTARyUz2zDzMUM TIMES PAzSHyZIr2s CROSSING KA2rBrD2s3
s4s5t OVER KAD5rKs TIMES IGI GUNUrLs TIMES BADtCROSSING KALrM2s4rSKAL
v LAGAB TIMES U OVER LAGAB TIMES UwOVER KASKAL LAGAB TIMES U OVER LAGAB TIMES UqESH2qIr TIMES BADyU
zDrDrNrSALsHsIM5v OVER KISIM5qUr OVER HI TIMES ASH2 KU OVER HI TIMES ASH2r3r4s VARIANT FORMr7rL
s GUNUrNrRs OPPOSING KURrSHU2qWU318pLArGABu TIMES A( PLUS DA PLUS HA:GAR:LAL(L(N(SH ZIDA TENU&BAD(I
&DAR&EN&GA)R(UD* PLUS GUD&HA)L(I TIMES NUN&IGI GUNU(M) PLUS HA;LU&KI)N(U3)L* PLUS HI PLUS A&LAGAB
(ISH(U)L&ME) PLUS EN(USH&NE&SHE PLUS SUM)ITA PLUS GISH PLUS ERIN2|TENU)U2+ PLUS SHU2(UM&TAG)K4
(E PLUS A PLUS SU PLUS NA&U( PLUS A:U PLUS U(2 PLUS ASH(D(SHvSQUAREDtRu TIMES SHE* PLUS SUMvGUNU
z OVER LAGAR GUNU SHErHSHUrLs TIMES LALrMs TIMES KUR( PLUS RUqIrLrMMU2rSHqUr TIMES BADr2s TIMES AL
zBADzESH2) TENUzGAN2 TENUzHI TIMES BADzIMzKAD2(3) PLUS ASH!IzLA PLUS ASH&GABzME PLUS ENzNE!U
zSI PLUS ASH&K2 PLUS BUzTUG2uENUtCROSSING LU2tOPPOSING LU2tSQUAREDuHESHIGr3rGALu OVER LUGAL
wPPOSING LUGALvSHESHIGrHrLrMs OVER LUM& GAR OVER GARpMAr TIMES TAK4sGUNUr2rHrRrSHt2qErSqIrNqU
r OVER MUrGs GUNUrNSUBrRGU2rSHt TIMES A!KUR!ZAuOVER MUSH) TIMES A PLUS NAuCROSSING MUSHt3u TIMES A
( PLUS DI&DIvGUNUpNAr2rGAt INVERTEDuTIMES SHU TENUuOPPOSING NAGAtRrM NUTILLUss2qEr TIMES AyUD
sSHESHIGqIr TIMES Er2rMs TIMES GAN2 TENU&R PLUS GAN2 TENUrNDA2v TIMES AN)SH+ PLUS ASH(GUD
(ME PLUS GAN2 TENU(NE)UN(SHE+ PLUS A AN?SH] PLUS ASH(U2 PLUS ASH)SHrSAGqUr11rNs LAGAR TIMES GAR+MASH
+SAL: OVER NUN LAGAR TIMES SAL+USHtTENUtOVER NUNtCROSSING NUN+ LAGAR OVER LAGARsUZu AB2 TIMES ASHGAB
+BI+DUG+GUD+IGI GUNU+KAD3+LA+NE+SILA3+U2vKISIM5 TIMES BI< UpPArDrNrPqESH2qIr TIMES AzByBIzUyEyIzByU
z2sCROSSING PIrRIGu TIMES KAL&UD&ZAvOPPOSING PIRIGpRArBqIqUpSArG NUTILLUss TIMES AzDU&BzHAzKAK!UR
zLUMzMIzNUNzSAL!HIDzTABzU2!B!M!R!SHtOVER SAGtGUNUrLs LAGAB TIMES ASH2rNGA2rRqHAs3t TIMES A!BAD!GISH
!NE!SHU2!TUR!U& PLUS As6sB6sR2rEs HUtOVER SHE GAD OVER GAD GAR OVER GAR(TAB OVER TAB GAR OVER GARsG9
sNsSHu2uLAMrIDt TIMES A!IMsMt TIMES A!BAL&ULUG!DIN!GAR!IGI) GUNU!KUSHU2!LUL!MUG!SALsNIGsRt TENU
uOVER SHIR BUR OVER BURsTArUs OVER INVERTED SHUs2sBURqIr GUNUrGs4t OVER SIG4 SHU2rK2rLA3qUr OVER SU
rDs2rHURrMsASHrRs9pTAr ASTERISKsTIMES HIyMIsGUNUrBs OVER TAB NI OVER NI DISH OVER DISHtSQUAREDrG
s TIMES BIzGUDzSHE&UzTUG2zUDrK4rRqEr GUNUqIr TENUrLrRs TIMES TAK4tOVER TIR
& GAD OVER GAD GAR OVER GARqUrG2rKrMrRs OVER TUR ZA OVER ZApUq GUDrU U
rOVER U PA OVER PA GAR OVER GARySUR OVER SURyU REVERSED OVER U REVERSEDq2qBqDr KUSHU2sTIMES BADyMI
yU PLUS U PLUS U[ GUNUsGUNUsSHESHIGz TIMES BADrUGqMr TIMES LAGAByME PLUS DAySHA3yUrBINrUM
t TIMES KASKAL!PAqNr GUNUqRr CROSSING URsSHESHIGr2s TIMES A PLUS HA,NA!LzHAzNUNzU2& PLUS ASH.BIr4rI
s3rUs TIMES A!SHGABzBARzDUNzGA&L&N2 TENU&R!UzHAzIGI!M!SHzKIzLUMzMINzPAzSHE!IG4zTUzU PLUS GUD!D!RUDA
sDAu TIMES UqSHs TIMES AzKU&RzTAK4sXs2sUMXqTUKIqZ3s TIMES KASKALrUpZAr TENUsSQUARED TIMES KURrGrMX
qE2qIr OVER ZIr3rBs KABA TENUrGrZ2qUr5s TIMES ArBURrMpKAP ELAMITEpAB TIMES NUNr2 TIMES A
qMAR TIMES KUGpDAG KISIM5 TIMES U2 PLUS MASHs3qISH PLUS SHUqUB TIMES SHEpEZEN TIMES GUD!SHE
pGA2 TIMES AN PLUS KAK PLUS A!SH2qE22qIGpHUSHpKA TIMES ANSHEzSH3yGISHzUDyHI TIMES ASH2yLUMyPAySHUL
yTUyUR2pLAGAB TIMES GIqU2 SHESHIG TIMES BADtTIMES ESH2 PLUS LALzSHUpMESHqUSH3 TIMES ZApNA4qINs9
sDA2 TIMES BAL(GIqU11 ROTATED NINETY DEGREESpPESH2 ASTERISKqIR2pSAG TIMES IGI GUNUpTI2pUM TIMES ME
q U=12400kNUMERIC SIGN TWO ASHyHREE ASHxFOUR ASHyIVE ASHxSIX ASHyEVEN ASHxEIGHT ASHxNINE ASH
xTHREE DISHxFOUR DISHyIVE DISHxSIX DISHyEVEN DISHxEIGHT DISHxNINE DISHxFOUR UyIVE UxSIX UyEVEN U
xEIGHT UxNINE UxONE GESH2xTWO GESH2yHREE GESH2xFOUR GESH2yIVE GESH2xSIX GESH2yEVEN GESH2xEIGHT GESH2
xNINE GESH2xONE GESHUxTWO GESHUyHREE GESHUxFOUR GESHUyIVE GESHUxTWO SHAR2yHREE SHAR2: VARIANT FORM
xFOUR SHAR2yIVE SHAR2xSIX SHAR2yEVEN SHAR2xEIGHT SHAR2xNINE SHAR2xONE SHARUxTWO SHARUyHREE SHARU
: VARIANT FORMxFOUR SHARUyIVE SHARUxSHAR2 TIMES GAL PLUS DISH~MINxONE BURUxTWO BURUyHREE BURU
. VARIANT FORMxFOUR BURUyIVE BURUxTHREE VARIANT FORM ESH16~H21xFOUR VARIANT FORM LIMMU~MU4~MU A~MU B
xSIX VARIANT FORM ASH9yEVEN VARIANT FORM IMIN3~IN A~IN BxEIGHT VARIANT FORM USSU~SU3
xNINE VARIANT FORM ILIMMU~MMU3~MMU4~MMU AxTWO ASH TENUyHREE ASH TENUxFOUR ASH TENUyIVE ASH TENU
xSIX ASH TENUxONE BAN2xTWO BAN2yHREE BAN2xFOUR BAN2, VARIANT FORMyIVE BAN2, VARIANT FORMxNIGIDAMIN
)ESHxONE ESHE3xTWO ESHE3xONE THIRD DISHxTWO THIRDS DISHxFIVE SIXTHS DISHxONE THIRD VARIANT FORM A
xTWO THIRDS VARIANT FORM AxONE EIGHTH ASH&QUARTER ASHyLD ASSYRIAN ONE SIXTH]QUARTERyNE QUARTER GUR
&HALF GURxELAMITE ONE THIRD+TWO THIRDS+FORTY,IFTYxFOUR U VARIANT FORMyIVE U VARIANT FORM
xSIX U VARIANT FORMyEVEN U VARIANT FORMxEIGHT U VARIANT FORMxNINE U VARIANT FORM
=12470kPUNCTUATION SIGN OLD ASSYRIAN WORD DIVIDER&VERTICAL COLON&DIAGONAL COLON<TRICOLON<QUADCOLON
=12480kSIGN AB TIMES NUN TENUySHU2qD TIMES ESH2pBAD TIMES DISH TENUrHAR2 TIMES AB2(NI(ZA
qU OVER BU TIMES NA2pDA TIMES TAK4rG TIMES KURqIM TIMES IGIzU U Us2 TIMES UDqUG TIMES ANSHE!SH
( AT LEFTzDIN!UNzERIN2zGA!I&R2 GUNU&SHzHA!IzIGI GUNUzKASKAL!UR&SHU2+ PLUS KASKALzLAK-020&M
( TIMES KUR!UH PLUS GISHzMASH!ES!IzNIzPIzSHE!I GUNUpE2 TIMES KURyPAPqRIN2 XqSH2 CROSSING ESH2
qZEN SHESHIG TIMES ASH:HI:IGI GUNU:LA<L:ME<S:SUuTIMES SUpGA2 TIMES BAHAR2zDIM GUNU!UG TIMES IGI GUNU
;KASKALzERENzGA&R PLUS DI:NEzHA PLUS AzKUSHU2 PLUS KASKALzLAM( TIMES KUR!UHzMUSHzNE& PLUS E2.GIzSHIM
zZIZ2rBA ROTATED NINETY DEGREESqESHTIN TIMES UqISH TIMES GISH CROSSING GISHqU2 TIMES IGI GUNU
rD PLUS GISH TIMES TAK4pHA TENU GUNUqI TIMES ASH OVER HI TIMES ASHpKA TIMES BUyKAyU U UzR
pLAGAB TIMES ZU OVER ZUrK-003u21v5u30u50v1u62u79 OVER LAK-079 GUNUu80v1 OVER LAK-081u92t130u42t210v9
u20v5v8u38u65v6t343v7v8u83v4u90t441v9w TIMES GU)IGI)PAP PLUS LU3?PAP PLUS LU3)U2 PLUS BAu50v7u70u83
u90v2v3v5t550t608u17w TIMES ASH)BAD)DUN3 GUNU GUNU)KU3)LA)TAR*E)U2*D*RUDAu36u48w TIMES DUB)GA)IGI
, GUNU)NI)PAP PLUS PAP PLUS LU3)SHESH PLUS KI)UD*RUDAt724u49qU2 GUNU TIMES ASHtTIMES DISHzHALzPAP
( PLUS PAP PLUS LU3zTAK4pMI PLUS ZA7qUSH OVER MUSH TIMES GA<KAKpNINDA2 TIMES DIM GUNU(GISH)UL(HI
(KESH2(LAK-050(MASH(PAP PLUS PAP(U) PLUS U)RUDApSAG GUNU TIMES HAtTIMES ENzSHE AT LEFTzTAK4qHA6 TENU
rE OVER SHEtPLUS HUB2yNAM2ySARrU2 PLUS DUG TIMES NIzE2 TIMES ANqI TIMES TAK4pTAK4 PLUS SAG
qUM TIMES GAN2 TENUzTHREE DISHpUR2 INVERTEDtTIMES UDrU TIMES DARA3zLAK-668!U3pZA7qU OVER ZU PLUS SAR
r5 TIMES THREE DISH TENU=12F90bYPRO-MINOAN SIGN CM001w2w4w5w6w7w8w9v10w1w2xBw3w5w7w9v21w3w4w5w6w7w8
w9v30w3w4w5w6w7w8w9v40w1w4w6w7w9v50w1w2w3w4w5w6w8w9v60w1w2w3w4w6w7w8w9v70w1w2w3w4w5xBw6w8w9v80w1w2w3
w4w5w6w7w8w9v90w1w2w4w5w6w7w8w9u100w1w2w3w4w5w7w8w9v10w2w4u301w2=13000aEGYPTIAN HIEROGLYPH A001x2x3
x4x5yAx6yAyBx7x8x9w10x1x2x3x4yAx5x6x7yAx8x9w20x1x2x3x4x5x6x7x8x9w30x1x2yAx3x4x5x6x7x8x9w40yAx1x2yAx3
yAx4x5yAx6x7x8x9w50x1x2x3x4x5x6x7x8x9w60x1x2x3x4x5x6x7x8x9w70uB001x2x3x4x5yAx6x7x8x9uC001x2yAyByCx3
x4x5x6x7x8x9w10yAx1x2x3x4x5x6x7x8x9w20x1x2x3x4uD001x2x3x4x5x6x7x8yAx9w10x1x2x3x4x5x6x7x8x9w20x1x2x3
x4x5x6x7yAx8x9w30x1yAx2x3x4yAx5x6x7x8x9w40x1x2x3x4x5x6yAx7x8yAx9w50yAyByCyDyEyFyGyHyIx1x2yAx3x4yAx5
x6x7x8x9w60x1x2x3x4x5x6x7yAyByCyDyEyFyGyHuE001x2x3x4x5x6x7x8yAx9yAw10x1x2x3x4x5x6yAx7yAx8x9w20yAx1x2
x3x4x5x6x7x8yAx9w30x1x2x3x4yAx6x7x8uF001yAx2x3x4x5x6x7x8x9w10x1x2x3yAx4x5x6x7x8x9w20x1yAx2x3x4x5x6x7
x8x9w30x1yAx2x3x4x5x6x7yAx8yAx9w40x1x2x3x4x5yAx6yAx7yAx8x9w50x1yAyByCx2x3uG001x2x3x4x5x6yAx7yAyBx8x9
w10x1yAx2x3x4x5x6x7x8x9w20yAx1x2x3x4x5x6yAx7x8x9w30x1x2x3x4x5x6yAx7yAx8x9w40x1x2x3yAx4x5yAx6x7x8x9
w50x1x2x3x4uH001x2x3x4x5x6yAx7x8uI001x2x3x4x5yAx6x7x8x9yAw10yAx1yAx2x3x4x5uK001x2x3x4x5x6x7x8uL001x2
yAx3x4x5x6yAx7x8uM001yAyBx2x3yAx4x5x6x7x8x9w10yAx1x2yAyByCyDyEyFyGyHx3x4x5yAx6yAx7yAx8x9w20x1x2yAx3
x4yAx5x6x7x8yAx9w30x1yAx2x3yAyBx4x5x6x7x8x9w40yAx1x2x3x4uN001x2x3x4x5x6x7x8x9w10x1x2x3x4x5x6x7x8yAyB
x9w20x1x2x3x4x5yAx6x7x8x9w30x1x2x3yAx4yAx5yAx6x7yAx8x9w40x1x2vL001y2y3y4y5zAy6y7y8y9x10y1y2y3y4y5y6
y7zAy8y9x20vU001y2y3y4y5y6y7y8y9x10zAy1zAy2y3y4y5y6y7y8zAy9x20y1y2zAuO001yAx2x3x4x5yAx6yAyByCyDyEyF
x7x8x9w10yAyByCx1x2x3x4x5x6x7x8x9yAw20yAx1x2x3x4yAx5yAx6x7x8x9yAw30yAx1x2x3yAx4x5x6yAyByCyDx7x8x9w40
x1x2x3x4x5x6x7x8x9w50yAyBx1uP001yAx2x3yAx4x5x6x7x8x9w10x1uQ001x2x3x4x5x6x7uR001x2yAx3yAyBx4x5x6x7x8
x9w10yAx1x2x3x4x5x6yAx7x8x9w20x1x2x3x4x5x6x7x8x9uS001x2yAx3x4x5x6yAx7x8x9w10x1x2x3x4yAyBx5x6x7yAx8x9
w20x1x2x3x4x5x6yAyBx7x8x9w30x1x2x3x4x5yAx6x7x8x9w40x1x2x3x4x5x6uT001x2x3yAx4x5x6x7yAx8yAx9yAw10x1yA
x2x3x4x5x6yAx7x8x9w20x1x2x3x4x5x6x7x8x9w30x1x2yAx3yAx4x5x6uU001x2x3x4x5x6yAyBx7x8x9w10x1x2x3x4x5x6x7
x8x9w20x1x2x3yAx4x5x6x7x8x9yAw30x1x2yAx3x4x5x6x7x8x9w40x1x2uV001yAyByCyDyEyFyGyHyIx2yAx3x4x5x6x7yAyB
x8x9w10x1yAyByCx2yAyBx3x4x5x6x7x8x9w20yAyByCyDyEyFyGyHyIyJyKyLx1x2x3yAx4x5x6x7x8yAx9yAw30yAx1yAx2x3
yAx4x5x6x7yAx8x9w40yAuW001x2x3yAx4x5x6x7x8x9yAw10yAx1x2x3x4yAx5x6x7yAx8yAx9w20x1x2x3x4yAx5uX001x2x3
x4yAyBx5x6yAx7x8yAuY001yAx2x3x4x5x6x7x8uZ001x2yAyByCyDx3yAyBx4yAx5yAx6x7x8x9w10x1x2x3x4x5yAyByCyDyE
yFyGyHyIx6yAyByCyDyEyFyGyHuAA001y2y3y4y5y6y7zAzBy8y9x10y1y2y3y4y5y6y7y8y9x20y1y2y3y4y5y6y7y8y9x30y1
y2=13430uVERTICAL JOINERuHORIZONTAL JOINERuINSERT AT TOP START*BOTTOM START*TOP END*BOTTOM END
uOVERLAY MIDDLEuBEGIN SEGMENTuEND SEGMENT=14400aANATOLIAN HIEROGLYPH A001y2y3y4y5y6y7y8y9x10zAy1y2y3
y4y5y6y7y8y9x20y1y2y3y4y5y6zAy7y8y9x30y1y2y3y4y5y6y7y8y9zAx40y1zAy2y3y4y5zAy6zAzBy7y8y9x50y1y2y3y4y5
y6y7y8y9x60y1y2y3y4y5y6zAzBzCy7y8y9x70y1y2y3y4y5y6y7y8y9x80y1y2y3y4y5y6y7y8y9x90y1y2y3y4y5y6y7zAy8zA
y9w100zAy1zAy2zAy3y4zAzBzCy5zAzBy6y7zAzBzCy8y9x10zAzBy1y2y3y4y5zAy6y7y8y9x20y1y2y3y4y5zAy6y7y8y9x30
y1y2y3y4y5zAy6y7y8y9x40y1y2y3y4y5y6y7y8y9x50y1y2y3y4y5y6y7y8y9x60y1y2y3y4y5y6y7y8y9x70y1y2y3y4y5y6y7
y8y9x80y1y2y3y4y5y6y7y8y9x90y1y2y3y4y5y6y7y8y9w200y1y2zAzBy3y4y5y6y7zAy8y9zAx10y1y2y3y4y5zAy6zAy7y8
y9x20y1y2y3y4y5y6y7zAy8y9x30y1y2y3y4y5y6y7y8y9x40y1y2y3y4y5y6y7y8y9x50y1y2y3y4y5y6y7y8y9x60y1y2y3y4
y5y6y7zAy8y9x70y1y2y3y4y5y6y7y8y9x80y1y2y3y4y5y6y7y8y9zAx90y1y2y3y4zAy5y6y7y8y9zAw300y1y2y3y4y5y6y7
y8y9zAx10y1y2y3y4y5y6y7y8y9x20y1y2y3y4y5y6y7y8y9zAx30y1y2AzBzCy3y4y5y6zAzBzCy7y8y9x40y1y2y3y4y5y6y7
y8y9x50y1y2y3y4y5y6y7y8y9zAx60y1y2y3y4zAy5y6y7y8zAy9x70y1zAy2y3y4y5y6y7y8y9x80y1zAy2y3 RA OR RIzAy4
y5y6zAy7y8y9x90y1y2y3 EIGHTy4y5y6y7y8y9w400y1y2y3y4y5y6y7y8y9x10 BEGIN LOGOGRAM MARK
zA END LOGOGRAM MARKy1y2y3y4y5y6y7y8y9x20y1y2y3y4y5y6y7y8y9x30y1y2y3y4y5y6y7y8y9x40y1y2y3y4y5y6y7y8
y9x50zAy1y2y3y4y5y6y7zAy8y9x60y1y2y3y4y5y6y7y8y9x70y1y2y3y4y5y6y7y8y9x80y1y2y3y4y5y6y7y8y9x90y1y2y3
y4y5y6y7w501y2y3y4y5y6y7y8y9x10y1y2y3y4y5y6y7y8y9x20y1y2y3y4y5y6y7y8y9x30
=16800aBAMUM LETTER PHASE-A NGKUE MFONvGBIEE FONvPON MFON PIPAEMGBIEE<BAvNAA MFONvSHUENSHUET
vTITA MFONvNZA MFONvSHINDA PA NJIvPON PA NJI PIPAEMGBIEE?BAvMAEMBGBIEEvTU MAEMBAvNGANGUvMAEMVEUX
xNSUAEwVEUAENGAMvSEUNYAMvNTOQPENvKEUKEUTNDAvNKINDIvSUUvNGKUENZEUMvLAPAQwET KUTvNTAP MFAAvMAEKEUP
vPASHAEvGHEUAERAEvPAMSHAEvMON NGGEUAETvNZUN MEUTvU YUQ NAEvGHEUAEGHEUAEvNTAP NTAAvSISAvMGBASA
wEUNJOMNDEUQwOOMPUQvKAFAvPA LEERAEWAvNDA LEERAEWAvPETvMAEMKPENvNIKAvPUPvTUAEPvLUAEPvSONJAMvTEUTEUWEN
vMAENYIvKETvNDAANGGEUAETvKUOQvMOOMEUTvSHUMvLOMMAEvFIRIvROMvKPOQvSOQvMAP PIEETvSHIRAEvNTAP
vSHOQ NSHUT YUMvNYIT MONGKEUAEQvPAARAEvNKAARAEvUNKNOWNvNGGENvMAESIvNJAMvMBANYIvNYETvTEUAENvSOTvPAAM
vNSHIEEvMAEMvNYIvKAQvNSHAvVEEvLUvNENwAQvMBAQtB NSHUETvTU MAEMGBIEEvSIEEwET TUvLOM NTEUMvMBA MAELEE
vKIEEMvYEURAEvMBAARAEvKAMvPEESHIvYAFU LEERAEWAvLAM NSHUT NYAMvNTIEE SHEUOQwDU NJAAvGHEUGHEUAEMvPIT
vTU NSIEEvSHET NJAQyUAEQTUvMFON TEUAEQwBIT MBAAKETvNYI NTEUMvKEUPUQvGHEUGHENvKEUYEUXvLAANAEvPARUM
vVEUMvNGKINDI MVOPxGEU MBUvWUAETvSAKEUAEvTAAMvMEUQvNGGUOQ& LARGEvMFIYAQvSUEvMBEURIwONTIEENvNYAEMAE
vPUNGAAMvMEUT NGGEETvFEUXvMBUOQvFEEvKEUAEMvMA NJEUAENA!UQAvLETvNGGAAMwSENvMAvKIQvNGOMtC NGKUE MAEMBA
wZAvYUMvWANGKUOQvNGGENwDEUAEREEwGKAQvGHARAEvMBEEKEETvGBAYIvNYIR MKPARAQ MEUNwTU MBITvMBEUMvPIRIEEN
vNDOMBUvMBAA CABBAGE-TREEvKEUSHEUAEPvGHAPvKEUKAQvYU MUOMAEvNZEUMvMBUEvNSEUAENvMBITvYEUQvKPARAQwAA
vSEUXvNDIDAvTAASHAEvNJUEQvTITA YUEvSUAETvNGGUAEN NYAMvVEUXvNANSANAQvMA KEUAERIvNTAAwGGUONvLAP
vMBIRIEENwGBASAQvNTEUNGBAvTEUTEUXvNGGUMvFUEvNDEUTwSAxHAQvBUNGvVEUAEPENvMBERAEvRUvNJAEMvLAMvTITUAEP
vNSUOT NGOMwJEEEEvKETvNGGUvMAESIwBUAEMvLUvKUTvNJAMwGOMvWUPvNGGUEETwSOMwTENvKUOP NKAARAEvNSUNwDAM
vMA NSIEEvYAAvNDAPvSHUEQwETFONvMBIwAEMBAwBANYIvKEUSEUXvMBEUXvKEUMvMBAA PICKETvYUWOQvNJEUXvMIEEwUAE
vSHIQvKEN LAWzFATIGUEvNGAQwAQvLIQvPINwENvTETtD MBUOvWAPvNJIvMFONvNJIEEvLIEEvNJEUTwSHEEwGGAAMAEwYAM
vWUAENvNGKUNvSHEEvNGKAPvKEUAETMEUNvTEUTvSHEUAEvNJAPvSUEvKETvYAEMMAEvKUOMvSAPvMFEUTvNDEUXvMALEERIwEUT
vSEUAEQvYENvNJEUAEMvKEUOT MBUAEvNGKEURIvTUvGHAAvNGKYEEvFEUFEUAETvNDEEvMGBOFUMvLEUAEPvNDONvMONIwGBEUN
vPUUTvMGBIEEwFOvLUMvNSIEEPvMBAAvKWAETvNYETvTEUAENvSOTvYUWOQvKEUMvRAEMvTEEEEvNGKEUAEQvMFEUAEvNSIEET
vKEUPvPIPwEUTAEvNYUEvLETvNGGAAMvMFIEEvNGGWAENvYUOMvPAPvYUOPvNDAMwTEUMvSUAEvKUNvNGGEUXxKIEEvTUOTvMEUN
vKUQvNSUMvTEUNvMAENJETvNGGAPvLEUMvNGGUOMwSHUTwJUEQvGHEUAEvKUvREN OLDvTAEwOQvNYIvRIIvLEEEEvMEEEEwvSUU
vMUvSHIIxEUXvKYEEvNUvSHUvNTEEvPEEvNIvSHOQvPUQvMVOPvLOQvREN MUCHvTIvNTUUvMBAA SEVENvSAQvFAAtE NDAP
vTOONvMBEUMvLAPvVOMvLOONvPAAvSOMvRAQvNSHUOPwDUNvPUAEvTAMvNGKAvKPEUXvWUOvSEEvNGGEUAETvPAAMvTOOvKUOP
vLOMvNSHIEEwGOPvMAEMvNGKEUXxOQwSHUEvRIMGBAvNJEUXvPEEMvSAAvNGGURAEvMGBAvGHEUXvNGKEUAEMwJAEMLIvMAP
vLOOTvNGGEEEEwDIQvTAEN NTEUMvSETvPUMvNDAA SOFTNESSwGGUAESHAE NYAMvYIEEvGHEUNvTUAEvYEUAEvPOvTUMAE
vKEUAEvSUAENvTEUAEQvVEUAEvWEUXvLAAMvPUvTAAQvGHAAMAEvNGEUREUTvSHEUAEQvMGBENwBEEvNZAQwKOMvGBETvTUM
vKUETvYAPvNYI CLEAVERvYITvMFEUQvNDIAQvPIEEQvYUEQvLEUAEMvFUEvGBEUXvNGKUPvKETvMAEvNGKAAMIvGHETvFAvNTUM
vPEUTvYEUMvNGGEUAEwYI BETWEENwZUQvPOONvMIEEvFUETvNAEvMUAEvGHEUAEvFU IvMVIvPUAQvNGKUMvKUTvPIETvNTAP
vYEUAETvNGGUPvPA PEOPLEvFU CALLwOMvNJEEvAvTOQvOvIvLAQvPA PLURALvTAAxQvNDAA MY HOUSEvSHIQvYEUXvNGUAE
vYUAENwOQ SWIMMINGzCOVERwUQxNvKEUXvPEUXvNJEE EPOCHvPUEvWUEvFEEvVEEvLUvMIvREUXwAEvNGUAETxAvSHOyQ
vFU REMEDYvNAvPIvLOQvKOvMENwAxQvTEUvKIvMONvTENvFAQvGHOMtF KAvUvKUvEEvREEvTAEvNYIvLAvRIIxEEvMEEEEvTAA
vNDAAwJAEMvMvSUUwHIIwIwEUXvKYEEwETvNUAExwJUAEvYOQvSHUvYAvNSHAvPEUXvNTEEvWUEvPEEvRUvNIvREUXvKEN
vNGKWAENxGAvSHOvPUAEvFOMvWAvLIwOQvKOvMBENvRENvMAwOwBAAvTETvKPAvSAMBAvVUEQ=16A40aMRO LETTER TAlNGIlYO
lMIMlBAlDAlAlPHIlKHAIlHAOlDAIlCHUlKEAAElOLlMAEMlNINlPAlOOmlROlSHIlTHEAlEAlWAlElKOlLANnlHAIlRIlTEK
=16A60eDIGIT ZEROkONEkTWOlHREEkFOURlIVEkSIXlEVENkEIGHTkNINE=16A6EfANDAfOUBLE DANDAaTANGSA LETTER OZ
pCpQpXoAZpCpQpXoVZpCpQpXoEZpCpQpXoIZpCpQpXoUZpCpQpXoAWZqCqQqXoUIZqCqQqXoFINAL NGoLONG UEXoSHORT UEZ
uAWXoUECqZqQqXpIUZrCrQrXoMZpCpQpXoKApHAoGAoNGAoSAoYAoWAoPAoNYAoPHAoBAoMAoNAoHAoLAoHTAoTAoDAoRAoNHA
oSHAoCAoTSAoGHAoHTTAoTHAoXAoFAoDHAoCHAoZA=16AC0hDIGIT ZEROnONEnTWOoHREEnFOURoIVEnSIXoEVENnEIGHTnNINE
=16AD0aBASSA VAH LETTER ENNIrKArSErFArMBErYIErGAHrDHIIrKPAHrJOrHWAHrWArZOrGBUrDOrCErUWUrTOrBArVU
rYEINrPArWADDArArOsOrUrEEsrI=16AF0kCOMBINING HIGH TONEuLOW TONEuMID TONEuLOW-MID TONEuHIGH-LOW TONE
kFULL STOP=16B00aPAHAWH HMONG VOWEL KEEBwVuIBvVuAUBwVuUBvVuEBvVuAIBwVuOOBwVuAWBwVuUABwVuOBvVuIABwV
uABvVuWBvVuAABwVnCONSONANT VAUxNTSAUxLAUxHAUxNLAUxRAUxNKAUxQHAUxYAUxHLAUxMAUxCHAUxNCHAUxHNAUxPLHAU
xNTHAUyAUxAUxXAUxCAUnMARK CIM TUBwSOwKESxHAVwSUAMwHOMwTAUMnSIGN VOS THOMxSHAB CEEBsCIM CHEEM
sVOS THIABwFEEMsXYEEM NTXIVyRHOyTOVyFAIBsVOS SEEVsMEEJ SUABsVOS NRUAsIB YAMsXAUSsCIM TSOV ROG
=16B50nDIGIT ZEROtONEtTWOuHREEtFOURuIVEtSIXuEVENtEIGHTtNINE=16B5BnNUMBER TENSuHUNDREDSuTEN THOUSANDS
uMILLIONSuHUNDRED MILLIONSuTEN BILLIONSvRILLIONS=16B63nSIGN VOS LUBsXYOOsHLIsTHIRD-STAGE HLI
sZWJ THAJsHNUBsNQIGsXIABsNTUJsAVsTXHEEJ CEEVsMEEJ TSEEBsTAUsLOSsMUSsCIM HAIS LUS NTOG NTOG
wCUAM TSHOOJwTXWV! CHWVwPUB DAWBwNRES TOS=16B7DnCLAN SIGN TSHEEJxYEEGxLISyAUJxXYOOJxKOOxHAWJxMUAS
xTHOJySABxPHABxKHABxHAMxVAJxFAJxYAJxTSWBxKWMxVWJ=16E40aMEDEFAIDRIN CAPITAL LETTER M&S&V&W&ATIU&Z&KP
&P&T&G&F&I&K&A&J&E&B&C&U&YU&L&Q&HP&NY&X&D&OE&N&R&O&AI&YmSMALL LETTER MzSzVzWzATIUzZzKPzPzTzGzFzIzKzA
zJzEzBzCzUzYUzLzQzHPzNYzXzDzOEzNzRzOzAIzYmDIGIT ZEROsONEsTWOtHREEsFOURtIVEsSIXtEVENsEIGHTsNINE
mNUMBER TENtELEVENtTWELVEuHIRTEENtFOURTEENuIFTEENtSIXTEENuEVENTEENtEIGHTEENtNINETEEN
mDIGIT ONE ALTERNATE FORMsTWO ALTERNATE FORMtHREE ALTERNATE FORMmCOMMAmFULL STOPmSYMBOL AIVA
mEXCLAMATION OH=16F00bIAO LETTER PAmBAmYI PAmPLAmMAnHAmARCHAIC MAmFAmVAnFAmTAmDAmYI TTAqAmTTAmDDAmNA
nHAmYI NNAmARCHAIC NAmNNAoHAmLAnYAnHAoYAmTLHAmDLHAmTLHYAmDLHYAmKAmGAmYI KAmQAnGAmNGAoHAmARCHAIC NGA
mHAmXAmGHAoHAmTSSAmDZZAmNYAoHAmTSHAmDZHAmYI TSHApDZHAmREFORMED TSHAmSHAnSAmZHAnSHAmTSAmDZAmYI TSAmSA
mZAnSAnZAoSAmARCHAIC ZZAmZZYAoSYAmWAmAHmHHAmBRImSYImDZYImTEnSEmRTE=16F4FfSIGN CONSONANT MODIFIER BAR
fLETTER NASALIZATIONfSIGN ASPIRATIONkREFORMED VOICINGtASPIRATIONfVOWEL SIGN ArArHHrNsGqOrOqWOrqErNsG
qOEYqIrAsNtGrOrErIrUrNGqUrAsNtGrUrEIrNGqYrIqAEsEqERRqROUNDED ERRqERqROUNDED ERqAIqEIqAUqOUqNrGqUOG
qYUIqOGrERqVWqIGqEAqIONGqUI=16F8FfTONE RIGHTkTOP RIGHTkABOVEkBELOWfLETTER TONE-2r3r4r5r6r7r8
mREFORMED TONE-1!2!4!5!6!8=16FE0aTANGUT ITERATION MARKaNUSHU ITERATION MARKaOLD CHINESE HOOK MARK
mITERATION MARKaKHITAN SMALL SCRIPT FILLER=16FF0aVIETNAMESE ALTERNATE READING MARK CA:NHAY
=18800aTANGUT COMPONENT-001t2t3t4t5t6t7t8t9s10t1t2t3t4t5t6t7t8t9s20t1t2t3t4t5t6t7t8t9s30t1t2t3t4t5t6
t7t8t9s40t1t2t3t4t5t6t7t8t9s50t1t2t3t4t5t6t7t8t9s60t1t2t3t4t5t6t7t8t9s70t1t2t3t4t5t6t7t8t9s80t1t2t3
t4t5t6t7t8t9s90t1t2t3t4t5t6t7t8t9r100t1t2t3t4t5t6t7t8t9s10t1t2t3t4t5t6t7t8t9s20t1t2t3t4t5t6t7t8t9s30
t1t2t3t4t5t6t7t8t9s40t1t2t3t4t5t6t7t8t9s50t1t2t3t4t5t6t7t8t9s60t1t2t3t4t5t6t7t8t9s70t1t2t3t4t5t6t7t8
t9s80t1t2t3t4t5t6t7t8t9s90t1t2t3t4t5t6t7t8t9r200t1t2t3t4t5t6t7t8t9s10t1t2t3t4t5t6t7t8t9s20t1t2t3t4t5
t6t7t8t9s30t1t2t3t4t5t6t7t8t9s40t1t2t3t4t5t6t7t8t9s50t1t2t3t4t5t6t7t8t9s60t1t2t3t4t5t6t7t8t9s70t1t2
t3t4t5t6t7t8t9s80t1t2t3t4t5t6t7t8t9s90t1t2t3t4t5t6t7t8t9r300t1t2t3t4t5t6t7t8t9s10t1t2t3t4t5t6t7t8t9
s20t1t2t3t4t5t6t7t8t9s30t1t2t3t4t5t6t7t8t9s40t1t2t3t4t5t6t7t8t9s50t1t2t3t4t5t6t7t8t9s60t1t2t3t4t5t6
t7t8t9s70t1t2t3t4t5t6t7t8t9s80t1t2t3t4t5t6t7t8t9s90t1t2t3t4t5t6t7t8t9r400t1t2t3t4t5t6t7t8t9s10t1t2t3
t4t5t6t7t8t9s20t1t2t3t4t5t6t7t8t9s30t1t2t3t4t5t6t7t8t9s40t1t2t3t4t5t6t7t8t9s50t1t2t3t4t5t6t7t8t9s60
t1t2t3t4t5t6t7t8t9s70t1t2t3t4t5t6t7t8t9s80t1t2t3t4t5t6t7t8t9s90t1t2t3t4t5t6t7t8t9r500t1t2t3t4t5t6t7
t8t9s10t1t2t3t4t5t6t7t8t9s20t1t2t3t4t5t6t7t8t9s30t1t2t3t4t5t6t7t8t9s40t1t2t3t4t5t6t7t8t9s50t1t2t3t4
t5t6t7t8t9s60t1t2t3t4t5t6t7t8t9s70t1t2t3t4t5t6t7t8t9s80t1t2t3t4t5t6t7t8t9s90t1t2t3t4t5t6t7t8t9r600t1
t2t3t4t5t6t7t8t9s10t1t2t3t4t5t6t7t8t9s20t1t2t3t4t5t6t7t8t9s30t1t2t3t4t5t6t7t8t9s40t1t2t3t4t5t6t7t8t9
s50t1t2t3t4t5t6t7t8t9s60t1t2t3t4t5t6t7t8t9s70t1t2t3t4t5t6t7t8t9s80t1t2t3t4t5t6t7t8t9s90t1t2t3t4t5t6
t7t8t9r700t1t2t3t4t5t6t7t8t9s10t1t2t3t4t5t6t7t8t9s20t1t2t3t4t5t6t7t8t9s30t1t2t3t4t5t6t7t8t9s40t1t2t3
t4t5t6t7t8t9s50t1t2t3t4t5t6t7t8t9s60t1t2t3t4t5t6t7t8aKHITAN SMALL SCRIPT CHARACTER-18B00:1:2:3:4:5:6
:7:8:9:A:B:C:D:E:F.10:1:2:3:4:5:6:7:8:9:A:B:C:D:E:F.20:1:2:3:4:5:6:7:8:9:A:B:C:D:E:F.30:1:2:3:4:5:6
:7:8:9:A:B:C:D:E:F.40:1:2:3:4:5:6:7:8:9:A:B:C:D:E:F.50:1:2:3:4:5:6:7:8:9:A:B:C:D:E:F.60:1:2:3:4:5:6
:7:8:9:A:B:C:D:E:F.70:1:2:3:4:5:6:7:8:9:A:B:C:D:E:F.80:1:2:3:4:5:6:7:8:9:A:B:C:D:E:F.90:1:2:3:4:5:6
:7:8:9:A:B:C:D:E:F.A0:1:2:3:4:5:6:7:8:9:A:B:C:D:E:F.B0:1:2:3:4:5:6:7:8:9:A:B:C:D:E:F.C0:1:2:3:4:5:6
:7:8:9:A:B:C:D:E:F.D0:1:2:3:4:5:6:7:8:9:A:B:C:D:E:F.E0:1:2:3:4:5:6:7:8:9:A:B:C:D:E:F.F0:1:2:3:4:5:6
:7:8:9:A:B:C:D:E:F,C00:1:2:3:4:5:6:7:8:9:A:B:C:D:E:F.10:1:2:3:4:5:6:7:8:9:A:B:C:D:E:F.20:1:2:3:4:5:6
:7:8:9:A:B:C:D:E:F.30:1:2:3:4:5:6:7:8:9:A:B:C:D:E:F.40:1:2:3:4:5:6:7:8:9:A:B:C:D:E:F.50:1:2:3:4:5:6
:7:8:9:A:B:C:D:E:F.60:1:2:3:4:5:6:7:8:9:A:B:C:D:E:F.70:1:2:3:4:5:6:7:8:9:A:B:C:D:E:F.80:1:2:3:4:5:6
:7:8:9:A:B:C:D:E:F.90:1:2:3:4:5:6:7:8:9:A:B:C:D:E:F.A0:1:2:3:4:5:6:7:8:9:A:B:C:D:E:F.B0:1:2:3:4:5:6
:7:8:9:A:B:C:D:E:F.C0:1:2:3:4:5:6:7:8:9:A:B:C:D:E:F.D0:1:2:3:4:5=1AFF0bATAKANA LETTER MINNAN TONE-2
(3(4(5=1AFF5(7(8xNASALIZED TONE-1?2?3?4?5=1AFFD?7?8=1B000qARCHAIC EaHIRAGANA LETTER ARCHAIC YE
bENTAIGANA LETTER A-1u2u3uWOsI-1u2u3u4sU-1u2u3u4u5sE-2u3u4u5u6sO-1u2u3sKA-1v2v3v4v5v6v7v8v9v10w1vKE
tI-1v2v3v4v5v6v7v8tU-1v2v3v4v5v6v7tE-1v2v3v4v5v6tO-1v2v3vKIsSA-1v2v3v4v5v6v7v8tI-1v2v3v4v5v6tU-1v2v3
v4v5v6v7v8tE-1v2v3v4v5tO-1v2v3v4v5v6v7sTA-1v2v3v4tI-1v2v3v4v5v6v7tU-1v2v3v4vTOtE-1v2v3v4v5v6v7v8v9
tO-1v2v3v4v5v6vRAsNA-1v2v3v4v5v6v7v8v9tI-1v2v3v4v5v6v7vTEtU-1v2v3tE-1v2v3v4v5v6vKOtO-1v2v3v4v5sHA-1
v2v3v4v5v6v7v8v9v10w1tI-1v2v3v4v5v6v7tU-1v2v3tE-1v2v3v4v5v6v7tO-1v2v3v4v5v6v7v8sMA-1v2v3v4v5v6v7tI-1
v2v3v4v5v6v7tU-1v2v3v4tE-1v2vMAtO-1v2v3v4v5v6sYA-1v2v3v4v5vYOtU-1v2v3v4tO-1v2v3v4v5v6sRA-1v2v3v4tI-1
v2v3v4v5v6v7tU-1v2v3v4v5v6tE-1v2v3v4tO-1v2v3v4v5v6sWA-1v2v3v4v5tI-1v2v3v4v5tE-1v2v3v4tO-1v2v3v4v5v6
v7sN-MU-MO-1!2bIRAGANA LETTER ARCHAIC WUaKATAKANA LETTER ARCHAIC YIzEyWU
=1B150aHIRAGANA LETTER SMALL WIxExO=1B164aKATAKANA LETTER SMALL WIxExOwN=1B170aNUSHU CHARACTER-1B170
u1u2u3u4u5u6u7u8u9uAuBuCuDuEuFt80u1u2u3u4u5u6u7u8u9uAuBuCuDuEuFt90u1u2u3u4u5u6u7u8u9uAuBuCuDuEuFtA0
u1u2u3u4u5u6u7u8u9uAuBuCuDuEuFtB0u1u2u3u4u5u6u7u8u9uAuBuCuDuEuFtC0u1u2u3u4u5u6u7u8u9uAuBuCuDuEuFtD0
u1u2u3u4u5u6u7u8u9uAuBuCuDuEuFtE0u1u2u3u4u5u6u7u8u9uAuBuCuDuEuFtF0u1u2u3u4u5u6u7u8u9uAuBuCuDuEuFs200
u1u2u3u4u5u6u7u8u9uAuBuCuDuEuFt10u1u2u3u4u5u6u7u8u9uAuBuCuDuEuFt20u1u2u3u4u5u6u7u8u9uAuBuCuDuEuFt30
u1u2u3u4u5u6u7u8u9uAuBuCuDuEuFt40u1u2u3u4u5u6u7u8u9uAuBuCuDuEuFt50u1u2u3u4u5u6u7u8u9uAuBuCuDuEuFt60
u1u2u3u4u5u6u7u8u9uAuBuCuDuEuFt70u1u2u3u4u5u6u7u8u9uAuBuCuDuEuFt80u1u2u3u4u5u6u7u8u9uAuBuCuDuEuFt90
u1u2u3u4u5u6u7u8u9uAuBuCuDuEuFtA0u1u2u3u4u5u6u7u8u9uAuBuCuDuEuFtB0u1u2u3u4u5u6u7u8u9uAuBuCuDuEuFtC0
u1u2u3u4u5u6u7u8u9uAuBuCuDuEuFtD0u1u2u3u4u5u6u7u8u9uAuBuCuDuEuFtE0u1u2u3u4u5u6u7u8u9uAuBuCuDuEuFtF0
u1u2u3u4u5u6u7u8u9uAuB=1BC00aDUPLOYAN LETTER HqXqPqTqFqKqLqBqDqVqGqRqP NqD SqF NqK MqR SqTHqSLOAN DH
qDHqKKqSLOAN JqHLqLHqRHqMqNqJqSqM NqN MqJ MqS JqM WITH DOTqN WITH DOTqJ WITH DOT!S INSIDE AND ABOVE
qS WITH DOT! BELOWqM SqN SqJ SqS SqM N SqN M SqJ M SqS J SqJ S WITH DOTsNt SqS Tt RsPt RqT SsR SqWrH
r RqS NsMqK R SqG R SqS Kt RqAqSLOAN OWqOArqAOUqIqEqIEqSHORT IqUIqEEqSLOAN EHqROMANIAN IqSLOAN EE
qLONG IqYEqUqEUqXWqU NqLONG UqROMANIAN UqUHqSLOAN UqOOHrWrUqWArOrIrEIrOWqNASAL UwOwIwAqPERNIN ANyM
qSLOAN ENwANwONqVOCALIC M=1BC70jAFFIX LEFT HORIZONTAL SECANTpMID HORIZONTAL SECANT
pRIGHT HORIZONTAL SECANTpLOW VERTICAL SECANTpMID VERTICAL SECANTpHIGH VERTICAL SECANT
pATTACHED SECANTyLEFT-TO-RIGHT SECANTyTANGENT!ILyE HOOKyI HOOKyTANGENT HOOK=1BC80pHIGH ACUTE
uTIGHT ACUTEuGRAVEuLONG GRAVEuDOTuCIRCLEuLINEuWAVEuVERTICAL=1BC90pLOW ACUTEtTIGHT ACUTEtGRAVE
tLONG GRAVEtDOTtCIRCLEtLINEtWAVEtVERTICALtARROW=1BC9CjSIGN O WITH CROSSjTHICK LETTER SELECTOR
jDOUBLE MARKjPUNCTUATION CHINOOK FULL STOPaSHORTHAND FORMAT LETTER OVERLAPrCONTINUING OVERLAP
rDOWN STEPrUP STEP=1CF00aZNAMENNY COMBINING MARK GORAZDO NIZKO S KRYZHEM ON LEFT
yNIZKO S KRYZHEM ON LEFTyTSATA ON LEFTyGORAZDO NIZKO ON LEFTyNIZKO ON LEFTySREDNE ON LEFT
yMALO POVYSHE ON LEFTyPOVYSHE ON LEFTyVYSOKO ON LEFTyMALO POVYSHE S KHOKHLOM ON LEFT
yPOVYSHE S KHOKHLOM ON LEFTyVYSOKO S KHOKHLOM ON LEFTyGORAZDO NIZKO S KRYZHEM ON RIGHT
yNIZKO S KRYZHEM ON RIGHTyTSATA ON RIGHTyGORAZDO NIZKO ON RIGHTyNIZKO ON RIGHTySREDNE ON RIGHT
yMALO POVYSHE ON RIGHTyPOVYSHE ON RIGHTyVYSOKO ON RIGHTyMALO POVYSHE S KHOKHLOM ON RIGHT
yPOVYSHE S KHOKHLOM ON RIGHTyVYSOKO S KHOKHLOM ON RIGHTyTSATA S KRYZHEMyMALO POVYSHE S KRYZHEM
ySTRANNO MALO POVYSHEyPOVYSHE S KRYZHEM.TRANNOyVYSOKO S KRYZHEMyMALO POVYSHE STRANNOyGORAZDO VYSOKO
yZELOyONyRAVNOyTIKHAYAyBORZAYAyUDARKAyPODVERTKAyLOMKAyKUPNAYAzACHKAyZEVOKySKOBAyRAZSEKA
yKRYZH ON LEFT=1CF30tTONAL RANGE MARK MRACHNO<SVETLO<TRESVETLOtMARK ZADERZHKAyDEMESTVENNY ZADERZHKA
yOTSECHKAyPODCHASHIE: WITH VERTICAL STROKEyCHASHKA+ POLNAYAyOBLACHKOySOROCHYA NOZHKAyTOCHKA
yDVOETOCHIEtATTACHING VERTICAL OMETtMARK CURVED OMETyKRYZHtLOWER TONAL RANGE INDICATOR
jPRIZNAK MODIFIER LEVEL-2,3!DIRECTION FLIP!KRYZH!ROG=1CF50jNEUME KRYUKu TIKHYpPARAKLITpDVA V CHELNU
pKLYUCHpZANOZHEKpSTOPITSAx S OCHKOMpPEREVODKAy NEPOSTOYANNAYApSTOPITSA WITH SOROCHYA NOZHKA
pCHELYUSTKApPALKApZAPYATAYApGOLUBCHIK BORZYzTIKHYzMRACHNYzSVETLYzTRESVETLYpVRAKHIYA PROSTAYA
yMRACHNAYAySVETLAYAyTRESVETLAYAyKLYUCHEVAYA PROSTAYA<MRACHNAYA<SVETLAYA<TRESVETLAYApDOUBLE ZAPYATAYA
pREVERSED CHELYUSTKApDERBITSApKHAMILOpCHASHKApPODCHASHIEpSKAMEYTSA MRACHNAYAzSVETLAYAzTRESVETLAYA
!IKHAYApDEMESTVENNY KLYUCHpSKAMEYTSA KLYUCHEVAYA SVETLAYA,NEPOSTOYANNAYA,VAYA TIKHAYA
zDVOECHELNAYA PROSTAYA?SVETLAYA?NEPOSTOYANNAYA?KLYUCHEVAYAqLOZHITIEy S ZAPYATOYzZAKRYTOEzS KRYZHEM
pKRYZHpROGpFITApKOBYLApZMEYTSApSTATYAv S ZAPYATOYyKRYZHEMyZAPYATOY I KRYZHEMyKRYZHEM I ZAPYATOY
wZAKRYTAYA+ S ZAPYATOYwS ROGOMyDVUMYA ZAPYATYMIyZAPYATOY I PODCHASHIEMpPOLKULIZMY
pSTATYA NEPOSTOYANNAYArRELA PROSTAYAwMRACHNOTIKHAYAwKRYZHEVAYAwPOLUPOVODNAYAyVODNAYAwNEPOSTOYANNAYA
wKLYUCHEPOVODNAYA)NEPOSTOYANNAYAwTIKHAYA PUTNAYAwDVOECHELNAYA+OKRYZHEVAYA,POVODNAYA+AYA KLYUCHEVAYA
+OPOVODNAYA KLYUCHEVAYAwGROMNAYA WITH SINGLE ZAPYATAYA!OPOVODNAYA WITH SINGLE ZAPYATAYA!NAYA
!OPOVODNAYA< WITH DOUBLE ZAPYATAYA&KRYZHEVAYA> POVODNAYApMECHIKv POVODNYwKLYUCHEVOY)POVODNY
)NEPOSTOYANNYpSTRELA TRYASOGLASNAYA(POVODNAYA(STRELNAYApOSOKAu SVETLAYAvTRESVETLAYA
vKRYUKOVAYA SVETLAYAwLYUCHEVAYA SVETLAYA.NEPOSTOYANNAYApSTRELA KRYUKOVAYA, POVODNAYA
.GROMNAYA WITH SINGLE ZAPYATAYA>OPOVODNAYA WITH SINGLE ZAPYATAYA>NAYA>OPOVODNAYA
~AYA WITH DOUBLE ZAPYATAYA?KRYZHEVAYA~VAYA POVODNAYA.TRYASKApKUFISMApOBLAKOpDUDApNEMKApPAUK
=1D000aBYZANTINE MUSICAL SYMBOL PSILIzDASEIAzPERISPOMENIzOXEIA EKFONITIKON+DIPLIzVAREIA EKFONITIKON
,DIPLIzKATHISTIzSYRMATIKIzPARAKLITIKIzYPOKRISIS: DIPLIzKREMASTIzAPESO EKFONITIKONzEXO EKFONITIKON
zTELEIAzKENTIMATAzAPOSTROFOS; DIPLIzSYNEVMAzTHITAzOLIGON ARCHAIONzGORGON ARCHAIONzPSILONzCHAMILON
zVATHYzISON ARCHAIONzKENTIMA ARCHAION,TA ARCHAIONzSAXIMATAzPARICHONzSTAVROS APODEXIAzOXEIAI ARCHAION
zVAREIAI ARCHAIONzAPODERMA ARCHAION(THEMAzKLASMAzREVMAzPIASMA ARCHAIONzTINAGMAzANATRICHISMAzSEISMA
!YNAGMA ARCHAION.META STAVROUzOYRANISMA ARCHAIONzTHEMAzLEMOIzDYOzTRIA!ESSERAzKRATIMATAzAPESO EXO NEO
zFTHORA ARCHAIONzIMIFTHORAzTROMIKON ARCHAIONzKATAVA TROMIKONzPELASTON!SIFISTONzKONTEVMA
zCHOREVMA ARCHAIONzRAPISMAzPARAKALESMA ARCHAION*LITIKI ARCHAIONzICHADINzNANAzPETASMAzKONTEVMA ALLO
zTROMIKON ALLOzSTRAGGISMATAzGRONTHISMATAzISON NEOzOLIGON NEO!XEIA NEOzPETASTIzKOUFISMA
zPETASTOKOUFISMAzKRATIMOKOUFISMAzPELASTON NEOzKENTIMATA NEO ANO, NEO ANOzYPSILIzAPOSTROFOS NEO
:I SYNDESMOS NEOzYPORROIzKRATIMOYPORROONzELAFRONzCHAMILIzMIKRON ISONzVAREIA NEOzPIASMA NEO
!SIFISTON NEOzOMALONzANTIKENOMAzLYGISMAzPARAKLITIKI NEO*ALESMA NEOzETERON PARAKALESMAzKYLISMA
zANTIKENOKYLISMAzTROMIKON NEOzEKSTREPTONzSYNAGMA NEO&RMAzCHOREVMA NEOzEPEGERMAzSEISMA NEO
zXIRON KLASMAzTROMIKOPSIFISTONzPSIFISTOLYGISMAzTROMIKOLYGISMA,PARAKALESMAzPSIFISTOPARAKALESMA
zTROMIKOSYNAGMAzPSIFISTOSYNAGMAzGORGOSYNTHETONzARGOSYNTHETONzETERON ARGOSYNTHETONzOYRANISMA NEO
zTHEMATISMOS ESO?XO* APLOUN(S KAI APOTHESzKATAVASMAzENDOFONONzYFEN KATO*ANOzSTAVROSzKLASMA ANO
zDIPLI ARCHAIONzKRATIMA ARCHAION:LLO.NEOzAPODERMA NEO&LIzDIPLIzTRIPLI!ETRAPLIzKORONIS
zLEIMMA ENOS CHRONOU,DYO CHRONON,TRION CHRONON.ESSARON CHRONON,IMISEOS CHRONOUzGORGON NEO ANO
,PARESTIGMENON ARISTERA~N DEXIAzDIGORGON. PARESTIGMENON ARISTERA KATO~NON ARISTERA ANO~NON DEXIA
zTRIGORGONzARGONzIMIDIARGONzDIARGONzAGOGI POLI ARGI+ARGOTERI:I+METRIA.SI+GORGI;OTERI+POLI GORGI
zMARTYRIA PROTOS ICHOS:ALLI PROTOS ICHOS:DEYTEROS ICHOS:ALLI DEYTEROS ICHOS:TRITOS ICHOS>FONIAS
;ETARTOS ICHOS|LEGETOS ICHOS:LEGETOS ICHOS:PLAGIOS ICHOSzISAKIA TELOUS ICHIMATOS
zAPOSTROFOI TELOUS ICHIMATOSzFANEROSIS TETRAFONIAS;MONOFONIAS;DIFONIASzMARTYRIA VARYS ICHOS
:PROTOVARYS ICHOS;LAGIOS TETARTOS ICHOSzGORTHMIKON N APLOUN?DIPLOUNzENARXIS KAI FTHORA VOUzIMIFONON
)THORONzFTHORA ARCHAION DEYTEROU ICHOU,DIATONIKI PA_NANA,NAOS ICHOS,DIATONIKI DI,SKLIRON DIATONON DI
,DIATONIKI KE_ZO_NI KATO~ ANO,MALAKON CHROMA DIFONIAS~MA MONOFONIAS!HTORA SKLIRON CHROMA VASIS
!THORA SKLIRON CHROMA SYNAFI,NENANOzCHROA ZYGOS+KLITON+SPATHIzFTHORA I YFESIS TETARTIMORION
,ENARMONIOS ANTIFONIAzYFESIS TRITIMORIONzDIESIS TRITIMORION.ETARTIMORION,APLI DYO DODEKATA
,MONOGRAMMOS TESSERA DODEKATA,DIGRAMMOS EX DODEKATA,TRIGRAMMOS OKTO DODEKATA
zYFESIS APLI DYO DODEKATA,MONOGRAMMOS TESSERA DODEKATA,DIGRAMMOS EX DODEKATA
,TRIGRAMMOS OKTO DODEKATAzGENIKI DIESIS,YFESISzDIASTOLI APLI MIKRI]EGALI:DIPLI:THESEOS
zSIMANSIS THESEOS^ DISIMOU_TRISIMOU|ETRASIMOU:ARSEOS] DISIMOU^TRISIMOU_ETRASIMOUzDIGRAMMA GG
&FTOGGOS OUzSTIGMAzARKTIKO PA.VOU.GA.DI.KE.ZO.NIzKENTIMATA NEO MESO, NEO MESO,TA NEO KATO, NEO KATO
!LASMA KATOzGORGON NEO KATO=1D100aMUSICAL SYMBOL SINGLE BARLINEpDOUBLE BARLINEpFINAL BARLINE
pREVERSE FINAL BARLINEpDASHED BARLINEpSHORT BARLINEpLEFT REPEAT SIGNpRIGHT REPEAT SIGNqEPEAT DOTS
pDAL SEGNOr CAPOpSEGNOpCODApREPEATED FIGURE-1+2+3pFERMATAw BELOWpBREATH MARKpCAESURApBRACEtKET
pONE-LINE STAFFpTWO-LINE STAFFqHREE-LINE STAFFpFOUR-LINE STAFFqIVE-LINE STAFFpSIX-LINE STAFF
tSTRING FRETBOARDpFOUR-STRING FRETBOARDpG CLEFv OTTAVA ALTA)BASSApC CLEFpF CLEFv OTTAVA ALTA)BASSA
pDRUM CLEF-1z2=1D129pMULTIPLE MEASURE RESTpDOUBLE SHARPwFLATpFLAT UPuDOWNpNATURAL UPxDOWNpSHARP UP
vDOWNpQUARTER TONE SHARP(FLATpCOMMON TIMEqUT TIMEpOTTAVA ALTAwBASSApQUINDICESIMA ALTA(BASSA
pMULTI RESTpWHOLE RESTpHALF RESTpQUARTER RESTpEIGHTH RESTpSIXTEENTH RESTpTHIRTY-SECOND REST
pSIXTY-FOURTH RESTpONE HUNDRED TWENTY-EIGHTH RESTpX NOTEHEADpPLUS NOTEHEADpCIRCLE X NOTEHEAD
pSQUARE NOTEHEAD WHITE+BLACKpTRIANGLE NOTEHEAD UP WHITE<BLACK.LEFT WHITE?BLACK.RIGHT WHITE[BLACK
.DOWN WHITE?BLACK.UP RIGHT WHITE_BLACKpMOON NOTEHEAD WHITE)BLACKpTRIANGLE-ROUND NOTEHEAD DOWN WHITE
~BLACKpPARENTHESIS NOTEHEADpVOID NOTEHEADpNOTEHEAD BLACKqULL NOTEHEADpCLUSTER NOTEHEAD WHITE,BLACK
pBREVEpWHOLE NOTEpHALF NOTEpQUARTER NOTEpEIGHTH NOTEpSIXTEENTH NOTEpTHIRTY-SECOND NOTE
pSIXTY-FOURTH NOTEpONE HUNDRED TWENTY-EIGHTH NOTEpCOMBINING STEM!PRECHGESANG STEMzTREMOLO-1.2.3
pFINGERED TREMOLO-1,2,3pCOMBINING AUGMENTATION DOTzFLAG-1*2*3*4*5pBEGIN BEAMpEND BEAMpBEGIN TIE
pEND TIEpBEGIN SLURpEND SLURpBEGIN PHRASEpEND PHRASEpCOMBINING ACCENTzSTACCATOzTENUTOzSTACCATISSIMO
zMARCATO,-STACCATOzACCENT-STACCATOzLOUREpARPEGGIATO UP!DOWNpCOMBINING DOITzRIPzFLIPzSMEARzBEND
zDOUBLE TONGUEzTRIPLE TONGUEpRINFORZANDOpSUBITOpZpPIANOpMEZZOpFORTEpCRESCENDOpDECRESCENDO
pGRACE NOTE SLASH!NO SLASHpTRqURNpINVERTED TURNpTURN SLASHuUPpORNAMENT STROKE-1+2+3+4+5+6+7+8+9+10,1
pHAUPTSTIMMEpNEBENSTIMMEpEND OF STIMMEpDEGREE SLASHpCOMBINING DOWN BOWzUP BOWzHARMONIC
zSNAP PIZZICATOpPEDAL MARKvUP MARKpHALF PEDAL MARKpGLISSANDO UPzDOWNpWITH FINGERNAILSpDAMPt ALL
pMAXIMApLONGApBREVISpSEMIBREVIS WHITE!BLACKpMINIMAv BLACKpSEMIMINIMA WHITE!BLACKpFUSA WHITEuBLACK
pLONGA PERFECTA RESTvIMPERFECTA RESTpBREVIS RESTpSEMIBREVIS RESTpMINIMA RESTpSEMIMINIMA REST
pTEMPUS PERFECTUM CUM PROLATIONE PERFECTA~NE IMPERFECTA~NE PERFECTA DIMINUTION-1
wIMPERFECTUM CUM PROLATIONE PERFECTA~IONE IMPERFECTA~IONE IMPERFECTA DIMINUTION-1
~IONE IMPERFECTA DIMINUTION-2~IONE IMPERFECTA DIMINUTION-3pCROIXpGREGORIAN C CLEFzF CLEFpSQUARE B
pVIRGApPODATUSpCLIVISpSCANDICUSpCLIMACUSpTORCULUSpPORRECTUSy FLEXUSpSCANDICUS FLEXUS
pTORCULUS RESUPINUSpPES SUBPUNCTISpKIEVAN C CLEFwEND OF PIECEwFINAL NOTEwRECITATIVE MARKwWHOLE NOTE
wHALF NOTEwQUARTER NOTE STEM DOWN]UPwEIGHTH NOTE STEM DOWN[UPwFLAT SIGNpSORIpKORON
=1D200aGREEK VOCAL NOTATION SYMBOL-1(2(3(4(5(6(7(8(9(10)1)2)3)4)5)6)7)8)9(20)1)2)3)4(50)1)2)3)4
gINSTRUMENTAL NOTATION SYMBOL-1;2;4;5;7;8;11<2<3<4<7<8<9;23<4<5<6<7<9;30<2<6<7<8<9;40<2<3<5<7<8<9;50
<1<2<3<4aCOMBINING GREEK MUSICAL TRISEMEzETRASEMEyPENTASEMEaGREEK MUSICAL LEIMMA
=1D2E0aMAYAN NUMERAL ZEROoONEoTWOpHREEoFOURpIVEoSIXpEVENoEIGHToNINEoTENoELEVENoTWELVEpHIRTEEN
oFOURTEENpIFTEENoSIXTEENpEVENTEENoEIGHTEENoNINETEEN=1D300bONOGRAM FOR EARTH
aDIGRAM FOR HEAVENLY EARTHmUMAN EARTHlEARTHLY HEAVENuUMANqaTETRAGRAM FOR CENTREoFULL CIRCLEoMIRED
oBARRIERoKEEPING SMALLoCONTRARIETYoASCENToOPPOSITIONoBRANCHING OUToDEFECTIVENESS OR DISTORTION
pIVERGENCEoYOUTHFULNESSoINCREASEoPENETRATIONoREACHoCONTACToHOLDING BACKoWAITINGoFOLLOWINGoADVANCE
oRELEASEqSISTANCEoEASEoJOYoCONTENTIONoENDEAVOURoDUTIESoCHANGEoDECISIVENESSoBOLD RESOLUTIONoPACKING
oLEGIONoCLOSENESSoKINSHIPoGATHERINGoSTRENGTHoPURITYoFULLNESSoRESIDENCEoLAW OR MODELoRESPONSE
oGOING TO MEEToENCOUNTERSoSTOVEoGREATNESSoENLARGEMENToPATTERNoRITUALoFLIGHToVASTNESS OR WASTING
oCONSTANCYoMEASUREoETERNITYoUNITYoDIMINISHMENToCLOSED MOUTHoGUARDEDNESSpATHERING INoMASSING
oACCUMULATIONoEMBELLISHMENToDOUBToWATCHoSINKINGoINNERoDEPARTUREpARKENINGpIMMINGoEXHAUSTIONoSEVERANCE
pTOPPAGEoHARDNESSoCOMPLETIONpLOSUREoFAILUREoAGGRAVATIONoCOMPLIANCEoON THE VERGEoDIFFICULTIES
oLABOURINGoFOSTERING=1D360aCOUNTING ROD UNIT DIGIT ONEyTWOzHREEyFOURzIVEySIXzEVENyEIGHTyNINE
nTENS DIGIT ONEyTWOzHREEyFOURzIVEySIXzEVENyEIGHTyNINEaIDEOGRAPHIC TALLY MARK ONExTWOyHREExFOURyIVE
aTALLY MARK ONElFIVE=1D400aMATHEMATICAL BOLD CAPITAL A!B!C!D!E!F!G!H!I!J!K!L!M!N!O!P!Q!R!S!T!U!V!W!X
!Y!ZsSMALL AyByCyDyEyFyGyHyIyJyKyLyMyNyOyPyQyRySyTyUyVyWyXyYyZnITALIC CAPITAL A(B(C(D(E(F(G(H(I(J(K
(L(M(N(O(P(Q(R(S(T(U(V(W(X(Y(ZuSMALL A!B!C!D!E!F!G=1D456!I!J!K!L!M!N!O!P!Q!R!S!T!U!V!W!X!Y!Z
nBOLD ITALIC CAPITAL A.B.C.D.E.F.G.H.I.J.K.L.M.N.O.P.Q.R.S.T.U.V.W.X.Y.ZzSMALL A+B+C+D+E+F+G+H+I+J+K
+L+M+N+O+P+Q+R+S+T+U+V+W+X+Y+ZnSCRIPT CAPITAL A=1D49E(C(D=1D4A2(G=1D4A5(J(K=1D4A9(N(O(P(Q=1D4AE(S(T
(U(V(W(X(Y(ZuSMALL A!B!C!D=1D4BB!F=1D4BD!H!I!J!K!L!M!N=1D4C5!P!Q!R!S!T!U!V!W!X!Y!Z
nBOLD SCRIPT CAPITAL A.B.C.D.E.F.G.H.I.J.K.L.M.N.O.P.Q.R.S.T.U.V.W.X.Y.ZzSMALL A+B+C+D+E+F+G+H+I+J+K
+L+M+N+O+P+Q+R+S+T+U+V+W+X+Y+ZnFRAKTUR CAPITAL A)B=1D507)D)E)F)G=1D50D)J)K)L)M)N)O)P)Q=1D516)S)T)U)V
)W)X)Y=1D51EvSMALL A&B&C&D&E&F&G&H&I&J&K&L&M&N&O&P&Q&R&S&T&U&V&W&X&Y&ZnDOUBLE-STRUCK CAPITAL A;B
=1D53B;D;E;F;G=1D540;I;J;K;L;M=1D546;O=1D54A;S;T;U;V;W;X;Y=1D552&SMALL A.B.C.D.E.F.G.H.I.J.K.L.M.N.O
.P.Q.R.S.T.U.V.W.X.Y.ZnBOLD FRAKTUR CAPITAL A:B:C:D:E:F:G:H:I:J:K:L:M:N:O:P:Q:R:S:T:U:V:W:X:Y:Z
!SMALL A,B,C,D,E,F,G,H,I,J,K,L,M,N,O,P,Q,R,S,T,U,V,W,X,Y,ZnSANS-SERIF CAPITAL A,B,C,D,E,F,G,H,I,J,K
,L,M,N,O,P,Q,R,S,T,U,V,W,X,Y,ZySMALL A*B*C*D*E*F*G*H*I*J*K*L*M*N*O*P*Q*R*S*T*U*V*W*X*Y*Z
yBOLD CAPITAL A>B>C>D>E>F>G>H>I>J>K>L>M>N>O>P>Q>R>S>T>U>V>W>X>Y>Z)SMALL A;B;C;D;E;F;G;H;I;J;K;L;M;N
;O;P;Q;R;S;T;U;V;W;X;Y;ZyITALIC CAPITAL A[B[C[D[E[F[G[H[I[J[K[L[M[N[O[P[Q[R[S[T[U[V[W[X[Y[Z+SMALL A
>B>C>D>E>F>G>H>I>J>K>L>M>N>O>P>Q>R>S>T>U>V>W>X>Y>ZyBOLD ITALIC CAPITAL A~B~C~D~E~F~G~H~I~J~K~L~M~N~O
~P~Q~R~S~T~U~V~W~X~Y~Z<SMALL A_B_C_D_E_F_G_H_I_J_K_L_M_N_O_P_Q_R_S_T_U_V_W_X_Y_ZnMONOSPACE CAPITAL A
+B+C+D+E+F+G+H+I+J+K+L+M+N+O+P+Q+R+S+T+U+V+W+X+Y+ZxSMALL A)B)C)D)E)F)G)H)I)J)K)L)M)N)O)P)Q)R)S)T)U)V
)W)X)Y)ZnITALIC SMALL DOTLESS I:J=1D6A8nBOLD CAPITAL ALPHA!BETA!GAMMA!DELTA!EPSILON!ZETA!ETA!THETA
!IOTA!KAPPA!LAMDA!MU!NU!XI!OMICRON!PI!RHO!THETA SYMBOL!SIGMA!TAU!UPSILON!PHI!CHI!PSI!OMEGAsNABLA
sSMALL ALPHAyBETAyGAMMAyDELTAyEPSILONyZETAyETAyTHETAyIOTAyKAPPAyLAMDAyMUyNUyXIyOMICRONyPIyRHO
yFINAL SIGMAySIGMAyTAUyUPSILONyPHIyCHIyPSIyOMEGAsPARTIAL DIFFERENTIALsEPSILON SYMBOLsTHETA SYMBOL
sKAPPA SYMBOLsPHI SYMBOLsRHO SYMBOLsPI SYMBOLnITALIC CAPITAL ALPHA(BETA(GAMMA(DELTA(EPSILON(ZETA(ETA
(THETA(IOTA(KAPPA(LAMDA(MU(NU(XI(OMICRON(PI(RHO(THETA SYMBOL(SIGMA(TAU(UPSILON(PHI(CHI(PSI(OMEGA
uNABLAuSMALL ALPHA!BETA!GAMMA!DELTA!EPSILON!ZETA!ETA!THETA!IOTA!KAPPA!LAMDA!MU!NU!XI!OMICRON!PI!RHO
!FINAL SIGMA!SIGMA!TAU!UPSILON!PHI!CHI!PSI!OMEGAuPARTIAL DIFFERENTIALuEPSILON SYMBOLuTHETA SYMBOL
uKAPPA SYMBOLuPHI SYMBOLuRHO SYMBOLuPI SYMBOLnBOLD ITALIC CAPITAL ALPHA.BETA.GAMMA.DELTA.EPSILON
.ZETA.ETA.THETA.IOTA.KAPPA.LAMDA.MU.NU.XI.OMICRON.PI.RHO.THETA SYMBOL.SIGMA.TAU.UPSILON.PHI.CHI.PSI
.OMEGAzNABLAzSMALL ALPHA+BETA+GAMMA+DELTA+EPSILON+ZETA+ETA+THETA+IOTA+KAPPA+LAMDA+MU+NU+XI+OMICRON
+PI+RHO+FINAL SIGMA+SIGMA+TAU+UPSILON+PHI+CHI+PSI+OMEGAzPARTIAL DIFFERENTIALzEPSILON SYMBOL
zTHETA SYMBOLzKAPPA SYMBOLzPHI SYMBOLzRHO SYMBOLzPI SYMBOLnSANS-SERIF BOLD CAPITAL ALPHA>BETA>GAMMA
>DELTA>EPSILON>ZETA>ETA>THETA>IOTA>KAPPA>LAMDA>MU>NU>XI>OMICRON>PI>RHO>THETA SYMBOL>SIGMA>TAU
>UPSILON>PHI>CHI>PSI>OMEGA)NABLA)SMALL ALPHA;BETA;GAMMA;DELTA;EPSILON;ZETA;ETA;THETA;IOTA;KAPPA
;LAMDA;MU;NU;XI;OMICRON;PI;RHO;FINAL SIGMA;SIGMA;TAU;UPSILON;PHI;CHI;PSI;OMEGA)PARTIAL DIFFERENTIAL
)EPSILON SYMBOL)THETA SYMBOL)KAPPA SYMBOL)PHI SYMBOL)RHO SYMBOL)PI SYMBOL)ITALIC CAPITAL ALPHA~BETA
~GAMMA~DELTA~EPSILON~ZETA~ETA~THETA~IOTA~KAPPA~LAMDA~MU~NU~XI~OMICRON~PI~RHO~THETA SYMBOL~SIGMA~TAU
~UPSILON~PHI~CHI~PSI~OMEGA<NABLA<SMALL ALPHA_BETA_GAMMA_DELTA_EPSILON_ZETA_ETA_THETA_IOTA_KAPPA
_LAMDA_MU_NU_XI_OMICRON_PI_RHO_FINAL SIGMA_SIGMA_TAU_UPSILON_PHI_CHI_PSI_OMEGA<PARTIAL DIFFERENTIAL
<EPSILON SYMBOL<THETA SYMBOL<KAPPA SYMBOL<PHI SYMBOL<RHO SYMBOL<PI SYMBOLnBOLD CAPITAL DIGAMMA
sSMALL DIGAMMA=1D7CEsDIGIT ZEROyONEyTWOzHREEyFOURzIVEySIXzEVENyEIGHTyNINEnDOUBLE-STRUCK DIGIT ZERO
.ONE.TWO:HREE.FOUR:IVE.SIX:EVEN.EIGHT.NINEnSANS-SERIF DIGIT ZERO*ONE*TWO+HREE*FOUR+IVE*SIX+EVEN
*EIGHT*NINEyBOLD DIGIT ZERO;ONE;TWO<HREE;FOUR<IVE;SIX<EVEN;EIGHT;NINEnMONOSPACE DIGIT ZERO)ONE)TWO
*HREE)FOUR*IVE)SIX*EVEN)EIGHT)NINEaSIGNWRITING HAND-FIST INDEXrCIRCLE INDEXsUP INDEXrOVAL INDEX
rHINGE INDEXrANGLE INDEXrFIST INDEX BENTrCIRCLE INDEX BENTrFIST THUMB UNDER INDEX BENT
wINDEX RAISED KNUCKLE(CUPPED(HINGED: LOWrCIRCLE INDEX HINGErFIST INDEX MIDDLErCIRCLE INDEX MIDDLE
rFIST INDEX MIDDLE BENT;RAISED KNUCKLES;HINGED(UP MIDDLE HINGED(HINGED MIDDLE UP(MIDDLE CONJOINED
~ INDEX BENT~ MIDDLE BENT~ CUPPED~ HINGED<ROSSEDrCIRCLE INDEX MIDDLE CROSSED
rFIST MIDDLE BENT OVER INDEXwINDEX BENT OVER MIDDLE(MIDDLE THUMBrCIRCLE INDEX MIDDLE THUMB
rFIST INDEX MIDDLE STRAIGHT THUMB BENT;BENT THUMB STRAIGHT;THUMB BENT;HINGED SPREAD THUMB SIDE
(UP MIDDLE HINGED THUMB SIDE~ THUMB CONJOINED(HINGED MIDDLE UP THUMB SIDE
(MIDDLE UP SPREAD THUMB FORWARD;THUMB CUPPED_IRCLED^HOOKED_INGEDwTHUMB BETWEEN INDEX MIDDLE STRAIGHT
wINDEX MIDDLE CONJOINED THUMB SIDE~ THUMB SIDE CONJOINED~ THUMB SIDE BENT
wMIDDLE THUMB HOOKED INDEX UPwINDEX THUMB HOOKED MIDDLE UP(MIDDLE CONJOINED HINGED THUMB SIDE
<ROSSED THUMB SIDE<ONJOINED THUMB FORWARD~ CUPPED THUMB FORWARDwMIDDLE THUMB CUPPED INDEX UP
wINDEX THUMB CUPPED MIDDLE UPwMIDDLE THUMB CIRCLED INDEX UP~NDEX HINGED
wINDEX THUMB ANGLED OUT MIDDLE UP^IN MIDDLE UP:CIRCLED MIDDLE UP(MIDDLE THUMB CONJOINED HINGED
^ANGLED OUT~LEDwMIDDLE THUMB ANGLED OUT INDEX UP~T INDEX CROSSED_INDEX UP
wINDEX THUMB HOOKED MIDDLE HINGEDsLAT FOUR FINGERS: BENT;HINGED;CONJOINED~ SPLIT
rCLAW FOUR FINGERS CONJOINEDrFIST FOUR FINGERS CONJOINED BENTrHINGE FOUR FINGERS CONJOINED
rFLAT FIVE FINGERS SPREADwHEEL FIVE FINGERS SPREADwFIVE FINGERS SPREAD FOUR BENT
wHEEL FIVE FINGERS SPREAD FOUR BENTwFIVE FINGERS SPREAD BENTwHEEL FIVE FINGERS SPREAD BENT
wFIVE FINGERS SPREAD THUMB FORWARDrCUP FIVE FINGERS SPREAD] OPENrHINGE FIVE FINGERS SPREAD OPEN
rOVAL FIVE FINGERS SPREADrFLAT FIVE FINGERS SPREAD HINGED~NGED THUMB SIDE~NGED NO THUMBv
v BETWEEN PALM FACINGSwHEELwTHUMB SIDEwHEEL THUMB SIDEwTHUMB BENT(FORWARDwSPLIT INDEX THUMB SIDE
(CENTRE: THUMB SIDE~E BENT(LITTLErCLAWv THUMB SIDEwNO THUMBwTHUMB FORWARDrHOOK CURLICUEvrCUP OPENu
u OPEN THUMB SIDEvTHUMB SIDEvOPEN NO THUMBvNO THUMBvOPEN THUMB FORWARDvTHUMB FORWARDtRLICUE OPENz
sIRCLErOVALv THUMB SIDEwNO THUMBwTHUMB FORWARDrHINGE OPEN& THUMB FORWARDww SMALLxOPEN THUMB SIDE
xTHUMB SIDExOPEN NO THUMBxNO THUMBxTHUMB SIDE TOUCHING INDEX)BETWEEN MIDDLE RINGrANGLE
rFIST INDEX MIDDLE RINGrCIRCLE INDEX MIDDLE RINGrHINGE INDEX MIDDLE RINGrANGLE INDEX MIDDLE RING
rHINGE LITTLErFIST INDEX MIDDLE RING BENT]CONJOINEDrHINGE INDEX MIDDLE RING CONJOINED
rFIST LITTLE DOWN. RIPPLE STRAIGHT^CURVED:OTHERS CIRCLED)UPwTHUMB UNDER LITTLE UPrCIRCLE LITTLE UP
rOVAL LITTLE UPrANGLE LITTLE UPrFIST LITTLE RAISED KNUCKLE)BENT)TOUCHES THUMB*HUMB
rHINGE LITTLE THUMBrFIST LITTLE INDEX THUMBrHINGE LITTLE INDEX THUMB
rANGLE LITTLE INDEX THUMB INDEX THUMB OUT~DEX THUMBrFIST LITTLE INDEXrCIRCLE LITTLE INDEX
rHINGE LITTLE INDEXrANGLE LITTLE INDEXrFIST INDEX MIDDLE LITTLErCIRCLE INDEX MIDDLE LITTLE
rHINGE INDEX MIDDLE LITTLExRINGrANGLE INDEX MIDDLE LITTLErFIST INDEX MIDDLE CROSS LITTLE
rCIRCLE INDEX MIDDLE CROSS LITTLErFIST RING DOWNrHINGE RING DOWN INDEX THUMB HOOK MIDDLE
rANGLE RING DOWN MIDDLE THUMB INDEX CROSSrFIST RING UP&RAISED KNUCKLE&LITTLErCIRCLE RING LITTLE
rOVAL RING LITTLErANGLE RING LITTLErFIST RING MIDDLE. CONJOINED:RAISED KNUCKLES&INDEX&THUMB
rHOOK RING THUMBrFIST INDEX RING LITTLErCIRCLE INDEX RING LITTLEsURLICUE INDEX RING LITTLE ON
rHOOK INDEX RING LITTLE OUT]IN]UNDERrCUP INDEX RING LITTLErHINGE INDEX RING LITTLE
rANGLE INDEX RING LITTLE OUT]rFIST MIDDLE DOWNrHINGE MIDDLErFIST MIDDLE UPrCIRCLE MIDDLE UP
rFIST MIDDLE RAISED KNUCKLE)UP THUMB SIDErHOOK MIDDLE THUMBrFIST MIDDLE THUMB LITTLE)LITTLE
)RING LITTLErCIRCLE MIDDLE RING LITTLEsURLICUE MIDDLE RING LITTLE ONtP MIDDLE RING LITTLE
rHINGE MIDDLE RING LITTLErANGLE MIDDLE RING LITTLE OUT_IN^rCIRCLE MIDDLE RING LITTLE BENT
sLAW MIDDLE RING LITTLE CONJOINED~JOINED SIDErHOOK MIDDLE RING LITTLE CONJOINED OUT~JOINED IN~JOINED
sINGE INDEX HINGEDrFIST INDEX THUMB SIDErHINGE INDEX THUMB SIDErFIST INDEX THUMB SIDE THUMB DIAGONAL
~ CONJOINED~ BENT[INDEX BENT[BOTH BENT[INDEX HINGE:FORWARD INDEX STRAIGHT~DEX BENT:HOOK:CURLICUE
>VE THUMB INSIDErCLAW INDEX THUMB CURVE THUMB INSIDErFIST INDEX THUMB CURVE THUMB UNDER;IRCLE
rCUP INDEX THUMB, OPENrHINGE INDEX THUMB OPEN;LARGE:: SMALLrANGLE INDEX THUMB OUT;IN:rFIST THUMB
& HEEL(SIDE DIAGONAL.CONJOINED.BENT(FORWARD(BETWEEN INDEX MIDDLE<MIDDLE RING<RING LITTLE
(UNDER TWO FINGERS(OVER TWO FINGERS(UNDER THREE FINGERS:FOUR FINGERS(OVER FOUR RAISED KNUCKLESv
v HEELmTOUCH SINGLEsMULTIPLEsBETWEENmGRASP SINGLEsMULTIPLEsBETWEENmSTRIKE SINGLEtMULTIPLEtBETWEEN
mBRUSH SINGLEsMULTIPLEsBETWEENmRUB SINGLEqMULTIPLEqBETWEENmSURFACE SYMBOLSuBETWEEN
nQUEEZE LARGE SINGLEuSMALL SINGLEuLARGE MULTIPLEuSMALL MULTIPLEvEQUENTIALmFLICK LARGE SINGLE
sSMALL SINGLEsLARGE MULTIPLEsSMALL MULTIPLEtEQUENTIALmSQUEEZE FLICK ALTERNATING
mMOVEMENT-HINGE UP DOWN LARGE;SMALL*SEQUENTIAL&DOWN SEQUENTIAL&UP DOWN ALTERNATING LARGE~NG SMALL
&SIDE TO SIDE SCISSORSvWALLPLANE FINGER CONTACTvFLOORPLANE FINGER CONTACT
vWALLPLANE SINGLE STRAIGHT SMALL~HT MEDIUM~HT LARGE~HT LARGEST?WRIST FLEX+DOUBLE STRAIGHT?WRIST FLEX
?ALTERNATING~ATING WRIST FLEX+CROSS+TRIPLE STRAIGHT MOVEMENT?WRIST FLEX?ALTERNATING~ATING WRIST FLEX
+BEND SMALL<MEDIUM<LARGE+CORNER SMALL?MEDIUM?LARGE?ROTATION,HECK SMALL>MEDIUM>LARGE+BOX SMALL;MEDIUM
;LARGE+ZIGZAG SMALL?MEDIUM?LARGE+PEAKS SMALL>MEDIUM>LARGEmTRAVEL-WALLPLANE ROTATION-WALLPLANE SINGLE
~ANE DOUBLE~ANE ALTERNATING?FLOORPLANE SINGLE~LANE DOUBLE~LANE ALTERNATING)SHAKING)ARM SPIRAL SINGLE
]DOUBLE]TRIPLEmMOVEMENT-DIAGONAL AWAY SMALL;MEDIUM;LARGE]ST*TOWARDS SMALL?MEDIUM?LARGE|ST
*BETWEEN AWAY SMALL|MEDIUM|LARGE~ARGEST?TOWARDS SMALL~S MEDIUM~S LARGE~S LARGEST
vFLOORPLANE SINGLE STRAIGHT SMALL~GHT MEDIUM~GHT LARGE~GHT LARGEST[WRIST FLEX,DOUBLE STRAIGHT
[WRIST FLEX[ALTERNATING~NATING WRIST FLEX,CROSS,TRIPLE STRAIGHT MOVEMENT[WRIST FLEX
[ALTERNATING MOVEMENT~NATING WRIST FLEX,BEND,CORNER SMALL[MEDIUM[LARGE.HECK,BOX SMALL<MEDIUM<LARGE
,ZIGZAG SMALL[MEDIUM[LARGE,PEAKS SMALL?MEDIUM?LARGEmTRAVEL-FLOORPLANE ROTATION-FLOORPLANE SINGLE
~PLANE DOUBLE~PLANE ALTERNATING[WALLPLANE SINGLE~LANE DOUBLE~LANE ALTERNATING*SHAKING
mMOVEMENT-WALLPLANE CURVE QUARTER SMALL~ MEDIUM~ LARGE~ LARGEST>HALF-CIRCLE SMALL~RCLE MEDIUM
~RCLE LARGE~RCLE LARGEST>THREE-QUARTER CIRCLE SMALL~UARTER CIRCLE MEDIUM+HUMP SMALL<MEDIUM<LARGE
+LOOP SMALL<MEDIUM<LARGE<SMALL DOUBLE+WAVE CURVE DOUBLE SMALL~UBLE MEDIUM~UBLE LARGE_TRIPLE SMALL
~IPLE MEDIUM~IPLE LARGE+CURVE THEN STRAIGHT<D CROSS SMALL~MEDIUMmROTATION-WALLPLANE SINGLE+DOUBLE
+ALTERNATEmMOVEMENT-WALLPLANE SHAKING+CURVE HITTING FRONT WALL+HUMP HITTING FRONT WALL
+LOOP HITTING FRONT WALL+WAVE HITTING FRONT WALLmROTATION-WALLPLANE SINGLE HITTING FRONT WALL
+DOUBLE HITTING FRONT WALL+ALTERNATING HITTING FRONT WALLmMOVEMENT-WALLPLANE CURVE HITTING CHEST
+HUMP HITTING CHEST+LOOP HITTING CHEST+WAVE HITTING CHESTmROTATION-WALLPLANE SINGLE HITTING CHEST
+DOUBLE HITTING CHEST+ALTERNATING HITTING CHESTmMOVEMENT-WALLPLANE WAVE DIAGONAL PATH SMALL
~ PATH MEDIUM~ PATH LARGEvFLOORPLANE CURVE HITTING CEILING SMALL~G CEILING LARGE
,HUMP HITTING CEILING SMALL DOUBLE~ CEILING LARGE DOUBLE~ CEILING SMALL TRIPLE~ CEILING LARGE TRIPLE
,LOOP HITTING CEILING SMALL SINGLE~ CEILING LARGE SINGLE~ CEILING SMALL DOUBLE~ CEILING LARGE DOUBLE
,WAVE HITTING CEILING SMALL~ CEILING LARGEmROTATION-FLOORPLANE SINGLE HITTING CEILING
,DOUBLE HITTING CEILING,ALTERNATING HITTING CEILINGmMOVEMENT-FLOORPLANE CURVE HITTING FLOOR SMALL
~G FLOOR LARGE,HUMP HITTING FLOOR SMALL DOUBLE~ FLOOR LARGE DOUBLE~ FLOOR TRIPLE SMALL TRIPLE
~ FLOOR TRIPLE LARGE TRIPLE,LOOP HITTING FLOOR SMALL SINGLE~ FLOOR LARGE SINGLE~ FLOOR SMALL DOUBLE
~ FLOOR LARGE DOUBLE,WAVE HITTING FLOOR SMALL~ FLOOR LARGEmROTATION-FLOORPLANE SINGLE HITTING FLOOR
,DOUBLE HITTING FLOOR,ALTERNATING HITTING FLOORmMOVEMENT-FLOORPLANE CURVE SMALL?MEDIUM?LARGE|ST
?COMBINED,HUMP SMALL,LOOP SMALL,WAVE SNAKE?MALL>LARGEmROTATION-FLOORPLANE SINGLE,DOUBLE,ALTERNATING
mMOVEMENT-FLOORPLANE SHAKING PARALLELvWALLPLANE ARM CIRCLE SMALL SINGLE_MEDIUM SINGLE_SMALL DOUBLE
_MEDIUM DOUBLEvFLOORPLANE ARM CIRCLE HITTING WALL SMALL SINGLE~ITTING WALL MEDIUM SINGLE
~ITTING WALL LARGE SINGLE~ITTING WALL SMALL DOUBLE~ITTING WALL MEDIUM DOUBLE
~ITTING WALL LARGE DOUBLEvWALLPLANE WRIST CIRCLE FRONT SINGLE~FRONT DOUBLE
vFLOORPLANE WRIST CIRCLE HITTING WALL SINGLE~ HITTING WALL DOUBLEvWALLPLANE FINGER CIRCLES SINGLE
~S DOUBLEvFLOORPLANE FINGER CIRCLES HITTING WALL SINGLE~ES HITTING WALL DOUBLE
mDYNAMIC ARROWHEAD SMALL*LARGEuFASTuSLOWuTENSEuRELAXEDuSIMULTANEOUS, ALTERNATINGuEVERY OTHER TIME
uGRADUALmHEADq RIMrMOVEMENT-WALLPLANE STRAIGHT<TILT!FLOORPLANE STRAIGHT!WALLPLANE CURVE
!FLOORPLANE CURVEz CIRCLEmFACE DIRECTION POSITION NOSE FORWARD TILTING^UP OR DOWN~OR DOWN TILTING
mEYEBROWS STRAIGHT UP*NEUTRAL*DOWNmDREAMY EYEBROWS NEUTRAL DOWN(DOWN NEUTRAL(UP NEUTRAL(NEUTRAL UP
mFOREHEAD NEUTRALvCONTACTvWRINKLEDmEYES OPENrSQUEEZEDrCLOSEDp BLINK SINGLEwMULTIPLEpS HALF OPEN
rWIDE OPENrHALF CLOSEDrWIDENING MOVEMENTp WINKpLASHES UPwDOWNwFLUTTERINGpGAZE-WALLPLANE STRAIGHT
? DOUBLE[ALTERNATINGuFLOORPLANE STRAIGHT[ DOUBLE]ALTERNATINGuWALLPLANE CURVEDuFLOORPLANE CURVED
uWALLPLANE CIRCLINGmCHEEKS PUFFEDtNEUTRALtSUCKEDmTENSE CHEEKS HIGHzMIDDLEzLOWmEARSmNOSE NEUTRAL
rCONTACTrWRINKLESsIGGLESmAIR BLOWING OUTqSUCKING INqBLOW SMALL ROTATIONSqSUCK SMALL ROTATIONS
mBREATH INHALEtEXHALEmMOUTH CLOSED NEUTRALzFORWARDzCONTACTsSMILEx WRINKLEDyOPENsFROWNx WRINKLEDyOPEN
sOPEN CIRCLExFORWARDxWRINKLEDxOVAL& WRINKLED(YAWNxRECTANGLE, WRINKLED.YAWNsKISSw FORWARDxWRINKLED
sTENSEx FORWARDySUCKEDmLIPS PRESSED TOGETHERp LOWER OVER UPPERqUPPER OVER LOWERmMOUTH CORNERS
sWRINKLES SINGLE&DOUBLEmTONGUE STICKING OUT FARtLICKING LIPStTIP BETWEEN LIPSxTOUCHING INSIDE MOUTH
tINSIDE MOUTH RELAXEDtMOVES AGAINST CHEEKtCENTRE STICKING OUT!INSIDE MOUTHnEETHr MOVEMENTsON TONGUE
& MOVEMENTvLIPSz MOVEMENTsBITE LIPSmMOVEMENT-WALLPLANE JAWvFLOORPLANE JAWmNECKmHAIRmEXCITEMENT
mSHOULDER HIP SPINEzPOSITIONSmWALLPLANE SHOULDER HIP MOVEmFLOORPLANE SHOULDER HIP MOVE
mSHOULDER TILTING FROM WAISTmTORSO-WALLPLANE STRAIGHT STRETCH(CURVED BENDsFLOORPLANE TWISTING
mUPPER BODY TILTING FROM HIP JOINTSmLIMB COMBINATIONrLENGTH-1y2y3y4y5y6y7mFINGER
mLOCATION-WALLPLANE SPACEvFLOORPLANE SPACEu HEIGHTvWIDTHvDEPTHvHEAD NECKvTORSOvLIMBS DIGITSmCOMMA
mFULL STOPmSEMICOLONmCOLONmPARENTHESIS=1DA9BmFILL MODIFIER-2!3!4!5!6=1DAA1mROTATION MODIFIER-2*3*4*5
*6*7*8*9*10+1+2+3+4+5+6=1DF00aLATIN SMALL LETTER FENG DIGRAPH WITH TRILLtREVERSED SCRIPT G
gLETTER SMALL CAPITAL TURNED GgSMALL LETTER REVERSED KgLETTER SMALL CAPITAL L WITH BELT
gSMALL LETTER LEZH WITH RETROFLEX HOOKtTURNED Y WITH BELTtREVERSED ENG
tTURNED R WITH LONG LEG AND RETROFLEX HOOKu WITH HOOK AND RETROFLEX HOOK
gLETTER RETROFLEX CLICK WITH RETROFLEX HOOKgSMALL LETTER ESH WITH DOUBLE BAR? AND CURL
tTURNED T WITH CURLgLETTER INVERTED GLOTTAL STOP WITH CURLnSTRETCHED C WITH CURL
oMALL CAPITAL TURNED KgSMALL LETTER L WITH FISHHOOKtDEZH DIGRAPH WITH PALATAL HOOK
tL WITH BELT AND PALATAL HOOKtENG WITH PALATAL HOOKtTURNED R WITH PALATAL HOOK
tR WITH FISHHOOK AND PALATAL HOOKtTESH DIGRAPH WITH PALATAL HOOKtEZH WITH PALATAL HOOK
tDEZH DIGRAPH WITH RETROFLEX HOOKtI WITH STROKE AND RETROFLEX HOOKtO WITH RETROFLEX HOOK
tTESH DIGRAPH WITH RETROFLEX HOOKtC WITH RETROFLEX HOOKtS WITH CURL
=1E000aCOMBINING GLAGOLITIC LETTER AZU(BUKY(VEDE(GLAGOLI(DOBRO(YESTU(ZHIVETE=1E008)EMLJA(IZHE
)NITIAL IZHE)(DJERVI(KAKO(LJUDIJE(MYSLITE(NASHI(ONU(POKOJI(RITSI(SLOVO(TVRIDO(UKU(FRITU(HERU
=1E01B(SHTA(TSI(CHRIVI(SHA(YERU+I)ATI=1E023)U(SMALL YUS=1E026(YO(IOTATED SMALL YUS(BIG YUS
(IOTATED BIG YUS(FITA=1E100aNYIAKENG PUACHUE HMONG LETTER MA*TSA*NTA*TA*HA*NA*XA*NKA*CA*LA*SA*ZA*NCA
+TSA*KA*DA*NYA+RA*VA*NTXA*TXA*FA*RA*QA*YA*NQA*PA*XYA*NPA*DLA*NPLA*HAH*MLA*PLA*GA*RRA*A+A*I*U*O+O*E+E
*W=1E130xTONE-B(M(J(V(S(G(DxSIGN FOR PERSON,THING,LOCATION,ANIMAL,INVERTEBRATE(XW XW
yYLLABLE LENGTHENER=1E140xDIGIT ZERO)ONE)TWO*HREE)FOUR*IVE)SIX*EVEN)EIGHT)NINE=1E14ExLOGOGRAM NYAJ
xCIRCLED CA=1E290aTOTO LETTER PAmBAmTAmDAmKAmGAmMAmNAnGAmSAmCHAmYAmWAmJAmHAmRAmLAmImBREATHY ImIU
mBREATHY IUmUmEmBREATHY EmEOmBREATHY EOmOmAEmBREATHY AEmAfSIGN RISING TONE=1E2C0aWANCHO LETTER AAp
oBAoCAoDAoGAoYAoPHAoLAoNAoPAoTApHAoFAoSApHAoJAoZAoWAoVAoKAoOoAUoRAoMAoKHAoHAoEoIoNGAoUoLLHAoTSApRA
oONGoAANGpNGoINGoONoENoAANoNYAoUENoYIHhTONE TUPpNImKOIpNIhDIGIT ZEROnONEnTWOoHREEnFOURoIVEnSIXoEVEN
nEIGHTnNINE=1E2FFhNGUN SIGN=1E7E0aETHIOPIC SYLLABLE HHYAvUvIvAAvEEwvO=1E7E8sGURAGE HHWAsHHWIvEEw
=1E7EDsGURAGE MWI&EE=1E7F0zQWI&EE(zBWI&EEzKWI&EE(zGWI&EE(zFWI&EEzPWI&EE
=1E800aMENDE KIKAKUI SYLLABLE M001 KI!2 KA!3 KUz65 KEEz95 KEz76 KOOz48 KOy179 KUAy004 WI!5 WA!6 WU
y126 WEEz18 WE!4 WOOy045 WOy194 WUIz43 WEIy061 WVIz49 WVAy139 WVEy007 MIN!8 MAN!9 MUNz59 MENz94 MON
y154 MUANz89 MUENy010 BI!1 BA!2 BUy150 BEEy097 BEy103 BOOz38 BOy013 I!4 A!5 Uy163 EEz00 Ez65 OOz47 O
z37 EI!1 IN!5 INz95 ANz78 ENy019 SIz20 SA!1 SUy162 SEEz16 SEz36 SOOy079 SOy196 SIAy025 LI!6 LA!7 LU
z84 LEEz73 LEz54 LOOy153 LOz10 LONG LEy016 DI!7 DA!8 DUz89 DEEy180 DOO!1 DOy022 TI!3 TA!4 TUz91 TEE
z55 TEy104 TOOy069 TOz28 JI!9 JAz30 JUy157 JEEz13 JEz60 JOOy063 JOy175 LONG JOy031 YI!2 YA!3 YU
y109 YEEy080 YEy141 YOOz21 YOy034 FI!5 FA!6 FUz78 FEE!5 FEy133 FOOy088 FOy197 FUAz01 FANy037 NIN
!8 NAN!9 NUNy117 NENz69 NONz76 HIy041 HAy186 HUy040 HEEz96 HEz42 HOOy140 HOy083 HEEIy128 HOOU
y053 HINy130 HANy087 HUNz52 HENy193 HONy046 HUANz90 NGGIz43 NGGAz82 NGGUy115 NGGEEz46 NGGEz56 NGGOO
z20 NGGOz59 NGGAAz27 NGGUAy086 LONG NGGEy106 LONG NGGOOz83 LONG NGGOz55 GIz11 GAz68 GUz90 GEE
z66 GUEI!7 GUANz84 NGENy057 NGONy177 NGUANy068 PIz99 PAz50 PUz81 PEEz51 PEy102 POOy066 POy145 MBI
y062 MBAy122 MBUy047 MBEEy188 MBEEy072 MBEy172 MBOO!4 MBOz87 MBUUz61 LONG MBEz05 LONG MBOO
z42 LONG MBOz32 KPIy092 KPAz74 KPUz44 KPEEy108 KPEz12 KPOOz58 KPOz24 GBIy056 GBAy148 GBUy093 GBEE
y107 GBEy071 GBOO!0 GBOy171 RAz23 NDI!9 NDA!5 NDUz91 NDEEz19 NDEy067 NDOO!4 NDOy152 NJAz92 NJU
z49 NJEEz34 NJOOz82 VI!5 VAz51 VUz73 VEEy085 VEy144 VOOy077 VOy164 NYINy058 NYANy170 NYUNy098 NYEN
z60 NYON=1E8C7oDIGIT ONEuTWOvHREEuFOURvIVEuSIXvEVENuEIGHTuNINEoCOMBINING NUMBER TEENS.NS+HUNDREDS
+THOUSANDS,EN THOUSANDS+HUNDRED THOUSANDS+MILLIONS=1E900aADLAM CAPITAL LETTER ALIFvDAALIvLAAMvMIIM
vBAvSINNYIIYHEvPEvBHEvRAvEvFAvIvOvDHAvYHEvWAWvNUNvKAFvYAvUvJIIMvCHIvHAvQAAFvGAvNYAvTUvNHAvVAvKHAvGBE
vZALvKPOvSHAgSMALL LETTER ALIFtDAALItLAAMtMIIMtBAtSINNYIIYHEtPEtBHEtRAtEtFAtItOtDHAtYHEtWAWtNUNtKAF
tYAtUtJIIMtCHItHAtQAAFtGAtNYAtTUtNHAtVAtKHAtGBEtZALtKPOtSHAgALIF LENGTHENERgVOWEL LENGTHENER
gGEMINATION MARKgHAMZAgCONSONANT MODIFIERgGEMINATE CONSONANT MODIFIERgNUKTAhASALIZATION MARK
=1E950gDIGIT ZEROmONEmTWOnHREEmFOURnIVEmSIXnEVENmEIGHTmNINE=1E95EgINITIAL EXCLAMATION MARK
oQUESTION MARK=1EC71aINDIC SIYAQ NUMBER ONEtTWOuHREEtFOURuIVEtSIXuEVENtEIGHTtNINEtTENuWENTYuHIRTY
tFORTYuIFTYtSIXTYuEVENTYtEIGHTYtNINETYtONE HUNDREDtTWO HUNDREDuHREE HUNDREDtFOUR HUNDREDuIVE HUNDRED
tSIX HUNDREDuEVEN HUNDREDtEIGHT HUNDREDtNINE HUNDREDtONE THOUSANDtTWO THOUSANDuHREE THOUSAND
tFOUR THOUSANDuIVE THOUSANDtSIX THOUSANDuEVEN THOUSANDtEIGHT THOUSANDtNINE THOUSANDtTEN THOUSAND
uWENTY THOUSANDuHIRTY THOUSANDtFORTY THOUSANDuIFTY THOUSANDtSIXTY THOUSANDuEVENTY THOUSAND
tEIGHTY THOUSANDtNINETY THOUSANDtLAKHxANmLAKH MARKmNUMBER KARORyANtPREFIXED ONE(TWO)HREE(FOUR)IVE
(SIX)EVEN(EIGHT(NINEmPLACEHOLDERmFRACTION ONE QUARTERzHALFvTHREE QUARTERSmRUPEE MARK
mNUMBER ALTERNATE ONE)TWO*EN THOUSANDmALTERNATE LAKH MARK=1ED01aOTTOMAN SIYAQ NUMBER ONEvTWOwHREE
vFOURwIVEvSIXwEVENvEIGHTvNINEvTENwWENTYwHIRTYvFORTYwIFTYvSIXTYwEVENTYvEIGHTYvNINETYvONE HUNDRED
vTWO HUNDREDwHREE HUNDREDvFOUR HUNDREDwIVE HUNDREDvSIX HUNDREDwEVEN HUNDREDvEIGHT HUNDRED
vNINE HUNDREDvONE THOUSANDvTWO THOUSANDwHREE THOUSANDvFOUR THOUSANDwIVE THOUSANDvSIX THOUSAND
wEVEN THOUSANDvEIGHT THOUSANDvNINE THOUSANDvTEN THOUSANDwWENTY THOUSANDwHIRTY THOUSAND
vFORTY THOUSANDwIFTY THOUSANDvSIXTY THOUSANDwEVENTY THOUSANDvEIGHTY THOUSANDvNINETY THOUSAND
oMARRATANoALTERNATE NUMBER TWO,HREE+FOUR,IVE+SIX,EVEN+EIGHT+NINE+TEN+FOUR HUNDRED+SIX HUNDRED
+TWO THOUSAND,EN THOUSANDoFRACTION ONE HALF&SIXTH=1EE00aARABIC MATHEMATICAL ALEFuBEHuJEEMuDAL
=1EE05uWAWuZAINuHAHuTAHuYEHuKAFuLAMuMEEMuNOONuSEENuAINuFEHuSADuQAFuREHuSHEENuTEHvHEHuKHAHuTHALuDAD
uZAHuGHAINuDOTLESS BEH(NOON(FEH(QAF=1EE21uINITIAL BEH(JEEM=1EE24(HEH=1EE27)AH=1EE29(YEH(KAF(LAM(MEEM
(NOON(SEEN(AIN(FEH(SAD(QAF=1EE34(SHEEN(TEH)HEH(KHAH=1EE39(DAD=1EE3B(GHAIN=1EE42uTAILED JEEM
=1EE47&HAH=1EE49&YEH=1EE4B&LAM=1EE4D&NOON&SEEN&AIN=1EE51&SAD&QAF=1EE54&SHEEN=1EE57&KHAH=1EE59&DAD
=1EE5B&GHAIN=1EE5D&DOTLESS NOON=1EE5F;QAF=1EE61uSTRETCHED BEH*JEEM=1EE64*HEH=1EE67+AH*TAH*YEH*KAF
=1EE6C*MEEM*NOON*SEEN*AIN*FEH*SAD*QAF=1EE74*SHEEN*TEH+HEH*KHAH=1EE79*DAD*ZAH*GHAIN*DOTLESS BEH
=1EE7E?FEH=1EE80uLOOPED ALEF&BEH&JEEM&DAL&HEH&WAW&ZAIN&HAH&TAH&YEH=1EE8B&LAM&MEEM&NOON&SEEN&AIN&FEH
&SAD&QAF&REH&SHEEN&TEH(HEH&KHAH&THAL&DAD&ZAH&GHAIN=1EEA1uDOUBLE-STRUCK BEH:JEEM:DAL=1EEA5:WAW:ZAIN
:HAH:TAH:YEH=1EEAB:LAM:MEEM:NOON:SEEN:AIN:FEH:SAD:QAF:REH:SHEEN:TEH;HEH:KHAH:THAL:DAD:ZAH:GHAIN
=1EEF0uOPERATOR MEEM WITH HAH WITH TATWEEL)HAH WITH DAL=1F000aMAHJONG TILE EAST WINDnSOUTH WIND
nWEST WINDnNORTH WINDnRED DRAGONnGREEN DRAGONnWHITE DRAGONnONE OF CHARACTERSnTWO OF CHARACTERS
oHREE OF CHARACTERSnFOUR OF CHARACTERSoIVE OF CHARACTERSnSIX OF CHARACTERSoEVEN OF CHARACTERS
nEIGHT OF CHARACTERSnNINE OF CHARACTERSnONE OF BAMBOOSnTWO OF BAMBOOSoHREE OF BAMBOOS
nFOUR OF BAMBOOSoIVE OF BAMBOOSnSIX OF BAMBOOSoEVEN OF BAMBOOSnEIGHT OF BAMBOOSnNINE OF BAMBOOS
nONE OF CIRCLESnTWO OF CIRCLESoHREE OF CIRCLESnFOUR OF CIRCLESoIVE OF CIRCLESnSIX OF CIRCLES
oEVEN OF CIRCLESnEIGHT OF CIRCLESnNINE OF CIRCLESnPLUMnORCHIDnBAMBOOnCHRYSANTHEMUMnSPRINGoUMMER
nAUTUMNnWINTERnJOKERnBACK=1F030aDOMINO TILE HORIZONTAL BACKw-00-00&1&2&3&4&5&6y1-00&1&2&3&4&5&6y2-00
&1&2&3&4&5&6y3-00&1&2&3&4&5&6y4-00&1&2&3&4&5&6y5-00&1&2&3&4&5&6y6-00&1&2&3&4&5&6mVERTICAL BACK
u-00-00z1z2z3z4z5z6w1-00z1z2z3z4z5z6w2-00z1z2z3z4z5z6w3-00z1z2z3z4z5z6w4-00z1z2z3z4z5z6w5-00z1z2z3z4
z5z6w6-00z1z2z3z4z5z6=1F0A0aPLAYING CARD BACKnACE OF SPADESnTWO OF SPADESoHREE OF SPADES
nFOUR OF SPADESoIVE OF SPADESnSIX OF SPADESoEVEN OF SPADESnEIGHT OF SPADESnNINE OF SPADES
nTEN OF SPADESnJACK OF SPADESnKNIGHT OF SPADESnQUEEN OF SPADESnKING OF SPADES=1F0B1nACE OF HEARTS
nTWO OF HEARTSoHREE OF HEARTSnFOUR OF HEARTSoIVE OF HEARTSnSIX OF HEARTSoEVEN OF HEARTS
nEIGHT OF HEARTSnNINE OF HEARTSnTEN OF HEARTSnJACK OF HEARTSnKNIGHT OF HEARTSnQUEEN OF HEARTS
nKING OF HEARTSnRED JOKER=1F0C1nACE OF DIAMONDSnTWO OF DIAMONDSoHREE OF DIAMONDSnFOUR OF DIAMONDS
oIVE OF DIAMONDSnSIX OF DIAMONDSoEVEN OF DIAMONDSnEIGHT OF DIAMONDSnNINE OF DIAMONDSnTEN OF DIAMONDS
nJACK OF DIAMONDSnKNIGHT OF DIAMONDSnQUEEN OF DIAMONDSnKING OF DIAMONDSnBLACK JOKER
=1F0D1nACE OF CLUBSnTWO OF CLUBSoHREE OF CLUBSnFOUR OF CLUBSoIVE OF CLUBSnSIX OF CLUBSoEVEN OF CLUBS
nEIGHT OF CLUBSnNINE OF CLUBSnTEN OF CLUBSnJACK OF CLUBSnKNIGHT OF CLUBSnQUEEN OF CLUBS
nKING OF CLUBSnWHITE JOKERnFOOLnTRUMP-1t2t3t4t5t6t7t8t9t10u1u2u3u4u5u6u7u8u9t20u1
=1F100aDIGIT ZERO FULL STOPlCOMMAgONE COMMAgTWO COMMAhHREE COMMAgFOUR COMMAhIVE COMMAgSIX COMMA
hEVEN COMMAgEIGHT COMMAgNINE COMMAcNGBAT CIRCLED SANS-SERIF DIGIT ZERO
iNEGATIVE CIRCLED SANS-SERIF DIGIT ZEROaCIRCLED ZERO WITH SLASHiANTICLOCKWISE ARROW
iDOLLAR SIGN WITH OVERLAID BACKSLASHaPARENTHESIZED LATIN CAPITAL LETTER A;B;C;D;E;F;G;H;I;J;K;L;M;N
;O;P;Q;R;S;T;U;V;W;X;Y;ZaTORTOISE SHELL BRACKETED LATIN CAPITAL LETTER S
aCIRCLED ITALIC LATIN CAPITAL LETTER C<RiCDiWZbOPYLEFT SYMBOLaSQUARED LATIN CAPITAL LETTER A)B)C)D)E
)F)G)H)I)J)K)L)M)N)O)P)Q)R)S)T)U)V)W)X)Y)ZiHViMViSDjSiPPViWCaNEGATIVE CIRCLED LATIN CAPITAL LETTER A
?B?C?D?E?F?G?H?I?J?K?L?M?N?O?P?Q?R?S?T?U?V?W?X?Y?ZaRAISED MC SIGNiD SIGNiR SIGNaCIRCLED CC
j WITH OVERLAID BACKSLASHiHUMAN FIGUREaNEGATIVE SQUARED LATIN CAPITAL LETTER A?B?C?D?E?F?G?H?I?J?K?L
?M?N?O?P?Q?R?S?T?U?V?W?X?Y?ZaCROSSED NEGATIVE SQUARED LATIN CAPITAL LETTER PaNEGATIVE SQUARED ICrPA
rSArABrWCaSQUARE DJgD CLjOOLiFREEiIDiNEWjGiOKiSOSiUP WITH EXCLAMATION MARKiVSiTHREE DiSECOND SCREEN
iTWO KiFOUR KiEIGHT KiFIVE POINT ONEiSEVEN POINT ONEiTWENTY-TWO POINT TWOiSIXTY P
iONE HUNDRED TWENTY PiLATIN SMALL LETTER DiHCjDRjI-RESiLOSSLESSiSHViUHDiVODaMASK WORK SYMBOL
=1F1E6aREGIONAL INDICATOR SYMBOL LETTER A.B.C.D.E.F.G.H.I.J.K.L.M.N.O.P.Q.R.S.T.U.V.W.X.Y.Z
aSQUARE HIRAGANA HOKAgD KATAKANA KOKOrSA=1F210iCJK UNIFIED IDEOGRAPH-624B*5B57+3CCiKATAKANA DE
iCJK UNIFIED IDEOGRAPH-4E8C*591A*89E3*5929*4EA4*6620*7121*6599*524D+F8C+18D*65B0*521D*7D42+51F*8CA9
*58F0+439*6F14+295+355*4E00.9*904A*5DE6*4E2D*53F3*6307*8D70*6253*7981+A7A*5408*6E80+709.8*7533*5272
+5B6*914D=1F240aTORTOISE SHELL BRACKETED CJK UNIFIED IDEOGRAPH-672C~PH-4E09~PH-4E8C~PH-5B89~PH-70B9
~PH-6253~PH-76D7~PH-52DD~PH-6557=1F250aCIRCLED IDEOGRAPH ADVANTAGEtCCEPT=1F260aROUNDED SYMBOL FOR FU
tLUtSHOUtXItSHUANGXItCAI=1F300aCYCLONEaFOGGYaCLOSED UMBRELLAaNIGHT WITH STARSaSUNRISE OVER MOUNTAINS
haCITYSCAPE AT DUSKaSUNSET OVER BUILDINGSaRAINBOWaBRIDGE AT NIGHTaWATER WAVEaVOLCANOaMILKY WAY
aEARTH GLOBE EUROPE-AFRICAmAMERICASnSIA-AUSTRALIAaGLOBE WITH MERIDIANSaNEW MOON SYMBOL
aWAXING CRESCENT MOON SYMBOLaFIRST QUARTER MOON SYMBOLaWAXING GIBBOUS MOON SYMBOLaFULL MOON SYMBOL
aWANING GIBBOUS MOON SYMBOLaLAST QUARTER MOON SYMBOLaWANING CRESCENT MOON SYMBOLaCRESCENT MOON
aNEW MOON WITH FACEaFIRST QUARTER MOON WITH FACEaLAST QUARTER MOON WITH FACEaFULL MOON WITH FACE
aSUN WITH FACEaGLOWING STARaSHOOTING STARaTHERMOMETERaBLACK DROPLETaWHITE SUNj WITH SMALL CLOUD
kBEHIND CLOUDw WITH RAINaCLOUD WITH RAINlSNOWlLIGHTNINGlTORNADOaFOGaWIND BLOWING FACEaHOT DOGaTACO
aBURRITOaCHESTNUTaSEEDLINGaEVERGREEN TREEaDECIDUOUS TREEaPALM TREEaCACTUSaHOT PEPPERaTULIP
aCHERRY BLOSSOMaROSEaHIBISCUSaSUNFLOWERaBLOSSOMaEAR OF MAIZEhRICEaHERBaFOUR LEAF CLOVERaMAPLE LEAF
aFALLEN LEAFaLEAF FLUTTERING IN WINDaMUSHROOMaTOMATOaAUBERGINEaGRAPESaMELONaWATERMELONaTANGERINE
aLEMONaBANANAaPINEAPPLEaRED APPLEaGREEN APPLEaPEARdCHaCHERRIESaSTRAWBERRYaHAMBURGERaSLICE OF PIZZA
aMEAT ON BONEaPOULTRY LEGaRICE CRACKERfBALLaCOOKED RICEbURRY AND RICEaSTEAMING BOWLbPAGHETTIaBREAD
aFRENCH FRIESaROASTED SWEET POTATOaDANGOaODENaSUSHIaFRIED SHRIMPbISH CAKE WITH SWIRL DESIGN
aSOFT ICE CREAMbHAVED ICEaICE CREAMaDOUGHNUTaCOOKIEbHOCOLATE BARbANDYaLOLLIPOPaCUSTARDaHONEY POT
aSHORTCAKEaBENTO BOXaPOT OF FOODaCOOKINGaFORK AND KNIFEaTEACUP WITHOUT HANDLEaSAKE BOTTLE AND CUP
aWINE GLASSaCOCKTAIL GLASSaTROPICAL DRINKaBEER MUGaCLINKING BEER MUGSaBABY BOTTLE
aFORK AND KNIFE WITH PLATEaBOTTLE WITH POPPING CORKaPOPCORNaRIBBONaWRAPPED PRESENTaBIRTHDAY CAKE
aJACK-O-LANTERNaCHRISTMAS TREEaFATHER CHRISTMASbIREWORKSi SPARKLERaBALLOONaPARTY POPPER
aCONFETTI BALLaTANABATA TREEaCROSSED FLAGSaPINE DECORATIONaJAPANESE DOLLSaCARP STREAMERaWIND CHIME
aMOON VIEWING CEREMONYaSCHOOL SATCHELaGRADUATION CAPaHEART WITH TIP ON THE LEFTaBOUQUET OF FLOWERS
aMILITARY MEDALaREMINDER RIBBONaMUSICAL KEYBOARD WITH JACKSaSTUDIO MICROPHONEaLEVEL SLIDER
aCONTROL KNOBSaBEAMED ASCENDING MUSICAL NOTEShDESCENDING MUSICAL NOTESaFILM FRAMESaADMISSION TICKETS
aCAROUSEL HORSEaFERRIS WHEELaROLLER COASTERaFISHING POLE AND FISHaMICROPHONEbOVIE CAMERAaCINEMA
aHEADPHONEaARTIST PALETTEaTOP HATaCIRCUS TENTaTICKETaCLAPPER BOARDaPERFORMING ARTSaVIDEO GAME
aDIRECT HITaSLOT MACHINEaBILLIARDSaGAME DIEaBOWLINGaFLOWER PLAYING CARDSaMUSICAL NOTE
cLTIPLE MUSICAL NOTESaSAXOPHONEaGUITARaMUSICAL KEYBOARDaTRUMPETaVIOLINaMUSICAL SCORE
aRUNNING SHIRT WITH SASHaTENNIS RACQUET AND BALLaSKI AND SKI BOOTaBASKETBALL AND HOOPaCHEQUERED FLAG
aSNOWBOARDERaRUNNERaSURFERbPORTS MEDALaTROPHYaHORSE RACINGaAMERICAN FOOTBALLaRUGBY FOOTBALLaSWIMMER
aWEIGHT LIFTERaGOLFERaRACING MOTORCYCLEhCARaCRICKET BAT AND BALLaVOLLEYBALL
aFIELD HOCKEY STICK AND BALLaICE HOCKEY STICK AND PUCKaTABLE TENNIS PADDLE AND BALL
aSNOW CAPPED MOUNTAINaCAMPINGaBEACH WITH UMBRELLAbUILDING CONSTRUCTIONaHOUSE BUILDINGSaCITYSCAPE
aDERELICT HOUSE BUILDINGaCLASSICAL BUILDINGaDESERTg ISLANDaNATIONAL PARKaSTADIUMaHOUSE BUILDING
gWITH GARDENaOFFICE BUILDINGaJAPANESE POST OFFICEaEUROPEAN POST OFFICEaHOSPITALaBANK
aAUTOMATED TELLER MACHINEaHOTELaLOVE HOTELaCONVENIENCE STOREaSCHOOLaDEPARTMENT STOREaFACTORY
aIZAKAYA LANTERNaJAPANESE CASTLEaEUROPEAN CASTLEaWHITE PENNANTaBLACK PENNANTaWAVING WHITE FLAG
hBLACK FLAGaROSETTEaBLACK ROSETTEaLABELaBADMINTON RACQUET AND SHUTTLECOCKbOW AND ARROWaAMPHORA
aEMOJI MODIFIER FITZPATRICK TYPE-1-2,3,4,5,6aRATaMOUSEaOXaWATER BUFFALOaCOWaTIGERaLEOPARDaRABBITaCAT
aDRAGONaCROCODILEaWHALEaSNAILdKEaHORSEaRAMaGOATaSHEEPaMONKEYaROOSTERaCHICKENaDOGaPIGaBOARaELEPHANT
aOCTOPUSaSPIRAL SHELLaBUGaANTaHONEYBEEaLADY BEETLEaFISHaTROPICAL FISHaBLOWFISHaTURTLEaHATCHING CHICK
aBABY CHICKaFRONT-FACING BABY CHICKaBIRDaPENGUINaKOALAaPOODLEaDROMEDARY CAMELaBACTRIAN CAMELaDOLPHIN
aMOUSE FACEaCOW FACEaTIGER FACEaRABBIT FACEaCAT FACEaDRAGON FACEaSPOUTING WHALEaHORSE FACE
aMONKEY FACEaDOG FACEaPIG FACEaFROG FACEaHAMSTER FACEaWOLF FACEaBEAR FACEaPANDA FACEbIG NOSE
bAW PRINTSaCHIPMUNKaEYESdbARaNOSEaMOUTHaTONGUEaWHITE UP POINTING BACKHAND INDEX
gDOWN POINTING BACKHAND INDEXgLEFT POINTING BACKHAND INDEXgRIGHT POINTING BACKHAND INDEX
aFISTED HAND SIGNaWAVING HAND SIGNaOK HAND SIGNaTHUMBS UP SIGNhDOWN SIGNaCLAPPING HANDS SIGN
aOPEN HANDS SIGNaCROWNaWOMANS HATaEYEGLASSESaNECKTIEaT-SHIRTaJEANSaDRESSaKIMONOaBIKINI
aWOMANS CLOTHESaPURSEaHANDBAGaPOUCHaMANS SHOEaATHLETIC SHOEaHIGH-HEELED SHOEaWOMANS SANDALhBOOTS
aFOOTPRINTSaBUST IN SILHOUETTEeS IN SILHOUETTEbOYaGIRLaMANaWOMANaFAMILYaMAN AND WOMAN HOLDING HANDS
aTWO MEN HOLDING HANDSeWOMEN HOLDING HANDSaPOLICE OFFICERaWOMAN WITH BUNNY EARSaBRIDE WITH VEIL
aPERSON WITH BLOND HAIRaMAN WITH GUA PI MAOjTURBANaOLDER MANgWOMANaBABYaCONSTRUCTION WORKERaPRINCESS
aJAPANESE OGREjGOBLINaGHOSTaBABY ANGELaEXTRATERRESTRIAL ALIENaALIEN MONSTERaIMPaSKULL
aINFORMATION DESK PERSONaGUARDSMANaDANCERaLIPSTICKaNAIL POLISHaFACE MASSAGEaHAIRCUTaBARBER POLE
aSYRINGEaPILLaKISS MARKaLOVE LETTERaRINGaGEM STONEaKISSaBOUQUETaCOUPLE WITH HEARTaWEDDING
aBEATING HEARTbROKEN HEARTaTWO HEARTSaSPARKLING HEARTaGROWING HEARTaHEART WITH ARROWaBLUE HEART
aGREEN HEARTaYELLOW HEARTaPURPLE HEARTaHEART WITH RIBBONaREVOLVING HEARTSaHEART DECORATION
aDIAMOND SHAPE WITH A DOT INSIDEaELECTRIC LIGHT BULBaANGER SYMBOLaBOMBaSLEEPING SYMBOL
aCOLLISION SYMBOLaSPLASHING SWEAT SYMBOLaDROPLETbASH SYMBOLaPILE OF POOaFLEXED BICEPSaDIZZY SYMBOL
aSPEECH BALLOONaTHOUGHT BALLOONaWHITE FLOWERaHUNDRED POINTS SYMBOLaMONEY BAGaCURRENCY EXCHANGE
aHEAVY DOLLAR SIGNaCREDIT CARDaBANKNOTE WITH YEN SIGNoDOLLAR SIGNoEURO SIGNoPOUND SIGN
aMONEY WITH WINGSaCHART WITH UPWARDS TREND AND YEN SIGNaSEATaPERSONAL COMPUTERaBRIEFCASEaMINIDISC
aFLOPPY DISKaOPTICAL DISCaDVDaFILE FOLDERaOPEN FILE FOLDERaPAGE WITH CURLfFACING UPaCALENDAR
aTEAR-OFF CALENDARaCARD INDEXbHART WITH UPWARDS TRENDlDOWNWARDS TRENDaBAR CHARTaCLIPBOARDaPUSHPIN
aROUND PUSHPINaPAPERCLIPaSTRAIGHT RULERaTRIANGULAR RULERaBOOKMARK TABSaLEDGERaNOTEBOOK
i WITH DECORATIVE COVERaCLOSED BOOKaOPEN BOOKaGREEN BOOKaBLUE BOOKaORANGE BOOKaBOOKSaNAME BADGE
aSCROLLaMEMOaTELEPHONE RECEIVERaPAGERaFAX MACHINEaSATELLITE ANTENNAaPUBLIC ADDRESS LOUDSPEAKER
aCHEERING MEGAPHONEaOUTBOX TRAYaINBOX TRAYaPACKAGEaE-MAIL SYMBOLaINCOMING ENVELOPE
aENVELOPE WITH DOWNWARDS ARROW ABOVEaCLOSED MAILBOX WITH LOWERED FLAGuRAISED FLAG
aOPEN MAILBOX WITH RAISED FLAGsLOWERED FLAGaPOSTBOXeAL HORNaNEWSPAPERaMOBILE PHONE
m WITH RIGHTWARDS ARROW AT LEFTaVIBRATION MODEaMOBILE PHONE OFFaNO MOBILE PHONESaANTENNA WITH BARS
aCAMERAg WITH FLASHaVIDEO CAMERAaTELEVISIONaRADIOaVIDEOCASSETTEaFILM PROJECTORaPORTABLE STEREO
bRAYER BEADSaTWISTED RIGHTWARDS ARROWSaCLOCKWISE RIGHTWARDS AND LEFTWARDS OPEN CIRCLE ARROWS
~LE ARROWS WITH CIRCLED ONE OVERLAYkDOWNWARDS AND UPWARDS OPEN CIRCLE ARROWS
aANTICLOCKWISE DOWNWARDS AND UPWARDS OPEN CIRCLE ARROWSaLOW BRIGHTNESS SYMBOLaHIGH BRIGHTNESS SYMBOL
aSPEAKER WITH CANCELLATION STROKEhh WITH ONE SOUND WAVEnTHREE SOUND WAVESaBATTERYaELECTRIC PLUG
aLEFT-POINTING MAGNIFYING GLASSaRIGHT-POINTING MAGNIFYING GLASSaLOCK WITH INK PEN
aCLOSED LOCK WITH KEYaKEYaLOCKaOPEN LOCKaBELLe WITH CANCELLATION STROKEbOOKMARKaLINK SYMBOL
aRADIO BUTTONaBACK WITH LEFTWARDS ARROW ABOVEaEND WITH LEFTWARDS ARROW ABOVE
aON WITH EXCLAMATION MARK WITH LEFT RIGHT ARROW ABOVEaSOON WITH RIGHTWARDS ARROW ABOVE
aTOP WITH UPWARDS ARROW ABOVEaNO ONE UNDER EIGHTEEN SYMBOLaKEYCAP TEN
aINPUT SYMBOL FOR LATIN CAPITAL LETTERSxSMALL LETTERSrNUMBERSrSYMBOLSrLATIN LETTERSaFIRE
aELECTRIC TORCHaWRENCHaHAMMERaNUT AND BOLTaHOCHOaPISTOLaMICROSCOPEaTELESCOPEaCRYSTAL BALL
aSIX POINTED STAR WITH MIDDLE DOTaJAPANESE SYMBOL FOR BEGINNERaTRIDENT EMBLEMaBLACK SQUARE BUTTON
aWHITE SQUARE BUTTONaLARGE RED CIRCLEgBLUE CIRCLEgORANGE DIAMONDgBLUE DIAMONDaSMALL ORANGE DIAMOND
gBLUE DIAMONDaUP-POINTING RED TRIANGLEaDOWN-POINTING RED TRIANGLEaUP-POINTING SMALL RED TRIANGLE
aDOWN-POINTING SMALL RED TRIANGLEaLOWER RIGHT SHADOWED WHITE CIRCLE
aUPPER RIGHT SHADOWED WHITE CIRCLEaCIRCLED CROSS POMMEEbROSS POMMEE WITH HALF-CIRCLE BELOWm
aNOTCHED LEFT SEMICIRCLE WITH THREE DOTSiRIGHT SEMICIRCLE WITH THREE DOTSaSYMBOL FOR MARKS CHAPTER
aWHITE LATIN CROSSaHEAVY LATIN CROSSaCELTIC CROSSaOM SYMBOLaDOVE OF PEACEaKAABAaMOSQUEaSYNAGOGUE
aMENORAH WITH NINE BRANCHESaBOWL OF HYGIEIAaCLOCK FACE ONE OCLOCKlTWO OCLOCKmHREE OCLOCKlFOUR OCLOCK
mIVE OCLOCKlSIX OCLOCKmEVEN OCLOCKlEIGHT OCLOCKlNINE OCLOCKlTEN OCLOCKlELEVEN OCLOCKlTWELVE OCLOCK
lONE-THIRTYlTWO-THIRTYmHREE-THIRTYlFOUR-THIRTYmIVE-THIRTYlSIX-THIRTYmEVEN-THIRTYlEIGHT-THIRTY
lNINE-THIRTYlTEN-THIRTYlELEVEN-THIRTYlTWELVE-THIRTYaRIGHT SPEAKERn WITH ONE SOUND WAVE
tTHREE SOUND WAVESaBULLHORNi WITH SOUND WAVESaRINGING BELLaBOOKaCANDLEaMANTELPIECE CLOCK
aBLACK SKULL AND CROSSBONESaNO PIRACYaHOLEaMAN IN BUSINESS SUIT LEVITATINGaSLEUTH OR SPY
aDARK SUNGLASSESaSPIDERg WEBaJOYSTICKaMAN DANCINGaLEFT HAND TELEPHONE RECEIVER
aTELEPHONE RECEIVER WITH PAGEaRIGHT HAND TELEPHONE RECEIVERaWHITE TOUCHTONE TELEPHONE
aBLACK TOUCHTONE TELEPHONEaTELEPHONE ON TOP OF MODEMaCLAMSHELL MOBILE PHONEaBACK OF ENVELOPE
aSTAMPED ENVELOPEaENVELOPE WITH LIGHTNINGaFLYING ENVELOPEaPEN OVER STAMPED ENVELOPE
aLINKED PAPERCLIPSaBLACK PUSHPINaLOWER LEFT PENCILlBALLPOINT PENlFOUNTAIN PENlPAINTBRUSHlCRAYON
bEFT WRITING HANDaTURNED OK HAND SIGNaRAISED HAND WITH FINGERS SPLAYED
bEVERSED RAISED HAND WITH FINGERS SPLAYEDjTHUMBS UP SIGNqDOWN SIGNjVICTORY HAND
jHAND WITH MIDDLE FINGER EXTENDEDbAISED HAND WITH PART BETWEEN MIDDLE AND RING FINGERS
aWHITE DOWN POINTING LEFT HAND INDEXaSIDEWAYS WHITE LEFT POINTING INDEXpRIGHT POINTING INDEX
jBLACK LEFT POINTING INDEXpRIGHT POINTING INDEXaBLACK LEFT POINTING BACKHAND INDEX
gRIGHT POINTING BACKHAND INDEXaSIDEWAYS WHITE UP POINTING INDEXpDOWN POINTING INDEX
jBLACK UP POINTING INDEXpDOWN POINTING INDEXaBLACK UP POINTING BACKHAND INDEX
gDOWN POINTING BACKHAND INDEXgHEARTaDESKTOP COMPUTERaKEYBOARD AND MOUSEaTHREE NETWORKED COMPUTERS
aPRINTERbOCKET CALCULATORaBLACK HARD SHELL FLOPPY DISKaWHITE HARD SHELL FLOPPY DISK
aSOFT SHELL FLOPPY DISKaTAPE CARTRIDGEaWIRED KEYBOARDaONE BUTTON MOUSEaTWO BUTTON MOUSE
bHREE BUTTON MOUSEbRACKBALLaOLD PERSONAL COMPUTERaHARD DISKaSCREENaPRINTER ICONaFAX ICON
aOPTICAL DISC ICONaDOCUMENT WITH TEXTs AND PICTUREoPICTUREaFRAME WITH PICTURElTILESlAN X
aBLACK FOLDERaFOLDERaOPEN FOLDERaCARD INDEX DIVIDERSfFILE BOXaFILE CABINETaEMPTY NOTEk PAGEnDaNOTE
e PAGEhDaEMPTY DOCUMENTgPAGEkSaDOCUMENTaPAGEeSaWASTEBASKETaSPIRAL NOTE PADhCALENDAR PAD
aDESKTOP WINDOWaMINIMIZEbAXIMIZEaOVERLAPaCLOCKWISE RIGHT AND LEFT SEMICIRCLE ARROWSbANCELLATION X
aINCREASE FONT SIZE SYMBOLaDECREASE FONT SIZE SYMBOLaCOMPRESSIONaOLD KEYaROLLED-UP NEWSPAPER
aPAGE WITH CIRCLED TEXTaSTOCK CHARTaDAGGER KNIFEaLIPSaSPEAKING HEAD IN SILHOUETTEaTHREE RAYS ABOVE
lBELOWlLEFTlRIGHTaLEFT SPEECH BUBBLEaRIGHT SPEECH BUBBLEaTWO SPEECH BUBBLESbHREE SPEECH BUBBLES
aLEFT THOUGHT BUBBLEaRIGHT THOUGHT BUBBLEaLEFT ANGER BUBBLEaRIGHT ANGER BUBBLEaMOOD BUBBLE
aLIGHTNING MOOD BUBBLEoaBALLOT BOX WITH BALLOThSCRIPT XhBOX WITH SCRIPT XjLD SCRIPT X
jX WITH BOLD SCRIPT XaLIGHT CHECK MARKaBALLOT BOX WITH BOLD CHECKaWORLD MAPaMOUNT FUJIaTOKYO TOWER
aSTATUE OF LIBERTYbILHOUETTE OF JAPANaMOYAIaGRINNING FACEn WITH SMILING EYESaFACE WITH TEARS OF JOY
aSMILING FACE WITH OPEN MOUTH( AND SMILING EYES.COLD SWEAT.TIGHTLY-CLOSED EYESsHALOtORNS
aWINKING FACEaSMILING FACE WITH SMILING EYESaFACE SAVOURING DELICIOUS FOODaRELIEVED FACE
aSMILING FACE WITH HEART-SHAPED EYESsSUNGLASSESdRKING FACEaNEUTRAL FACEaEXPRESSIONLESS FACE
aUNAMUSED FACEaFACE WITH COLD SWEATaPENSIVE FACEaCONFUSED FACEeOUNDED FACEaKISSING FACE
aFACE THROWING A KISSaKISSING FACE WITH SMILING EYESsCLOSED EYESaFACE WITH STUCK-OUT TONGUE
! AND WINKING EYE+TIGHTLY-CLOSED EYESaDISAPPOINTED FACEaWORRIED FACEaANGRY FACEaPOUTING FACE
aCRYING FACEaPERSEVERING FACEaFACE WITH LOOK OF TRIUMPHaDISAPPOINTED BUT RELIEVED FACE
aFROWNING FACE WITH OPEN MOUTHaANGUISHED FACEaFEARFUL FACEaWEARY FACEaSLEEPY FACEaTIRED FACE
aGRIMACING FACEaLOUDLY CRYING FACEaFACE WITH OPEN MOUTHaHUSHED FACE
aFACE WITH OPEN MOUTH AND COLD SWEATfSCREAMING IN FEARaASTONISHED FACEaFLUSHED FACEaSLEEPING FACE
aDIZZY FACEaFACE WITHOUT MOUTHj MEDICAL MASKaGRINNING CAT FACE WITH SMILING EYES
aCAT FACE WITH TEARS OF JOYaSMILING CAT FACE WITH OPEN MOUTHwHEART-SHAPED EYES
aCAT FACE WITH WRY SMILEaKISSING CAT FACE WITH CLOSED EYESaPOUTING CAT FACEaCRYING CAT FACE
aWEARY CAT FACEaSLIGHTLY FROWNING FACEjSMILING FACEaUPSIDE-DOWN FACEaFACE WITH ROLLING EYES
kNO GOOD GESTUREkOK GESTUREaPERSON BOWING DEEPLYaSEE-NO-EVIL MONKEYaHEAR-NO-EVIL MONKEY
aSPEAK-NO-EVIL MONKEYaHAPPY PERSON RAISING ONE HANDaPERSON RAISING BOTH HANDS IN CELEBRATION
hFROWNINGhWITH POUTING FACEmFOLDED HANDSaNORTH WEST POINTING LEAFaSOUTH WEST POINTING LEAF
aNORTH EAST POINTING LEAFaSOUTH EAST POINTING LEAFaTURNED NORTH WEST POINTING LEAF
hSOUTH WEST POINTING LEAFhNORTH EAST POINTING LEAFhSOUTH EAST POINTING LEAF
aNORTH WEST POINTING VINE LEAFaSOUTH WEST POINTING VINE LEAFaNORTH EAST POINTING VINE LEAF
aSOUTH EAST POINTING VINE LEAFaHEAVY NORTH WEST POINTING VINE LEAFgSOUTH WEST POINTING VINE LEAF
gNORTH EAST POINTING VINE LEAFgSOUTH EAST POINTING VINE LEAFaNORTH WEST POINTING BUD
aSOUTH WEST POINTING BUDaNORTH EAST POINTING BUDaSOUTH EAST POINTING BUD
aHEAVY NORTH WEST POINTING BUDgSOUTH WEST POINTING BUDgNORTH EAST POINTING BUD
gSOUTH EAST POINTING BUDbOLLOW QUILT SQUARE ORNAMENT( IN BLACK SQUAREaSOLID QUILT SQUARE ORNAMENT
& IN BLACK SQUAREaLEFTWARDS ROCKETaUPWARDS ROCKETaRIGHTWARDS ROCKETaDOWNWARDS ROCKET
aSCRIPT LIGATURE ET ORNAMENTaHEAVY SCRIPT LIGATURE ET ORNAMENTaLIGATURE OPEN ET ORNAMENT
aHEAVY LIGATURE OPEN ET ORNAMENTgAMPERSAND ORNAMENTaSWASH AMPERSAND ORNAMENT
bANS-SERIF HEAVY DOUBLE TURNED COMMA QUOTATION MARK ORNAMENTyCOMMA QUOTATION MARK ORNAMENT
rLOW DOUBLE COMMA QUOTATION MARK ORNAMENTaHEAVY INTERROBANG ORNAMENTaSANS-SERIF INTERROBANG ORNAMENT
aHEAVY SANS-SERIF INTERROBANG ORNAMENTaVERY HEAVY SOLIDUSlREVERSE SOLIDUSaCHECKER BOARD
aREVERSE CHECKER BOARDbOCKETaHELICOPTERaSTEAM LOCOMOTIVEaRAILWAY CARaHIGH-SPEED TRAIN
q WITH BULLET NOSEaTRAINaMETROaLIGHT RAILaSTATIONaTRAMe CARaBUSaONCOMING BUSaTROLLEYBUSaBUS STOP
aMINIBUSaAMBULANCEaFIRE ENGINEaPOLICE CARaONCOMING POLICE CARaTAXIaONCOMING TAXIaAUTOMOBILE
aONCOMING AUTOMOBILEaRECREATIONAL VEHICLEaDELIVERY TRUCKaARTICULATED LORRYaTRACTORaMONORAIL
cUNTAIN RAILWAYaSUSPENSION RAILWAYaMOUNTAIN CABLEWAYaAERIAL TRAMWAYaSHIPaROWBOATaSPEEDBOAT
aHORIZONTAL TRAFFIC LIGHTaVERTICAL TRAFFIC LIGHTaCONSTRUCTION SIGNaPOLICE CARS REVOLVING LIGHT
aTRIANGULAR FLAG ON POSTaDOORaNO ENTRY SIGNaSMOKING SYMBOLaNO SMOKING SYMBOL
aPUT LITTER IN ITS PLACE SYMBOLaDO NOT LITTER SYMBOLaPOTABLE WATER SYMBOLaNON-POTABLE WATER SYMBOL
aBICYCLEaNO BICYCLESaBICYCLISTaMOUNTAIN BICYCLISTaPEDESTRIANaNO PEDESTRIANSaCHILDREN CROSSING
aMENS SYMBOLaWOMENS SYMBOLaRESTROOMaBABY SYMBOLaTOILETaWATER CLOSETaSHOWERaBATHeTUBaPASSPORT CONTROL
aCUSTOMSaBAGGAGE CLAIMaLEFT LUGGAGEaTRIANGLE WITH ROUNDED CORNERSaPROHIBITED SIGN
aCIRCLED INFORMATION SOURCEaBOYS SYMBOLaGIRLS SYMBOLaCOUCH AND LAMPaSLEEPING ACCOMMODATION
bHOPPING BAGSaBELLHOP BELLcDaPLACE OF WORSHIPaOCTAGONAL SIGNaSHOPPING TROLLEYbTUPAaPAGODA
aHINDU TEMPLEbUTaELEVATOR=1F6DDaPLAYGROUND SLIDEaWHEELaRING BUOYaHAMMER AND WRENCHaSHIELDaOIL DRUM
aMOTORWAYaRAILWAY TRACKaMOTOR BOATaUP-POINTING MILITARY AIRPLANEmAIRPLANEmSMALL AIRPLANE
aSMALL AIRPLANEaNORTHEAST-POINTING AIRPLANEaAIRPLANE DEPARTUREjARRIVING=1F6F0aSATELLITE
aONCOMING FIRE ENGINEaDIESEL LOCOMOTIVEaPASSENGER SHIPaSCOOTERaMOTOR SCOOTERaCANOEaSLED
aFLYING SAUCERaSKATEBOARDaAUTO RICKSHAWaPICKUP TRUCKaROLLER SKATE
=1F700aALCHEMICAL SYMBOL FOR QUINTESSENCEwAIRwFIREwEARTHwWATERwAQUAFORTIS! REGIA,-2&VITAE,-2wVINEGAR
)-2*3wSULFURwPHILOSOPHERS SULFURwBLACK SULFURwMERCURY SUBLIMATE[-2]3wCINNABARwSALTwNITREwVITRIOL)-2
wROCK SALT+-2wGOLDwSILVERwIRON ORE*-2wCROCUS OF IRONwREGULUS OF IRONwCOPPER OREwIRON-COPPER ORE
wSUBLIMATE OF COPPERwCROCUS OF COPPER?-2xOPPER ANTIMONIATEwSALT OF COPPER ANTIMONIATE
xUBLIMATE OF SALT OF COPPERwVERDIGRISwTIN OREwLEAD OREwANTIMONY OREwSUBLIMATE OF ANTIMONY
xALT OF ANTIMONYxUBLIMATE OF SALT OF ANTIMONYwVINEGAR OF ANTIMONYwREGULUS OF ANTIMONY^-2))-2*3*4
wALKALI(-2wMARCASITEwSAL-AMMONIACwARSENICwREALGAR)-2wAURIPIGMENTwBISMUTH OREwTARTAR(-2wQUICK LIME
wBORAX&-2(3wALUMwOILwSPIRITwTINCTUREwGUMwWAXwPOWDERwCALXwTUTTYwCAPUT MORTUUMwSCEPTER OF JOVE
wCADUCEUSwTRIDENTwSTARRED TRIDENTwLODESTONEwSOAPwURINEwHORSE DUNGwASHESwPOT ASHESwBRICK
wPOWDERED BRICKwAMALGAMwSTRATUM SUPER STRATUM|-2xUBLIMATIONwPRECIPITATEwDISTILLzSOLVE*-2wPURIFY
yTREFACTIONwCRUCIBLE*-2+3+4+5wALEMBICwBATH OF MARY*VAPOURSwRETORTwHOURwNIGHTwDAY-NIGHTwMONTH
wHALF DRAM&OUNCE=1F780aBLACK LEFT-POINTING ISOSCELES RIGHT TRIANGLE
gUP-POINTING ISOSCELES RIGHT TRIANGLEgRIGHT-POINTING ISOSCELES RIGHT TRIANGLE
gDOWN-POINTING ISOSCELES RIGHT TRIANGLEgSLIGHTLY SMALL CIRCLEaMEDIUM BOLD WHITE CIRCLE
aBOLD WHITE CIRCLEaHEAVY WHITE CIRCLEaVERY HEAVY WHITE CIRCLEaEXTREMELY HEAVY WHITE CIRCLE
aWHITE CIRCLE CONTAINING BLACK SMALL CIRCLEaROUND TARGETaBLACK TINY SQUAREgSLIGHTLY SMALL SQUARE
aLIGHT WHITE SQUAREaMEDIUM WHITE SQUAREaBOLD WHITE SQUAREaHEAVY WHITE SQUAREaVERY HEAVY WHITE SQUARE
aEXTREMELY HEAVY WHITE SQUAREaWHITE SQUARE CONTAINING BLACK VERY SMALL SQUARE*MEDIUM SQUARE
aSQUARE TARGETaBLACK TINY DIAMONDgVERY SMALL DIAMONDgMEDIUM SMALL DIAMOND
aWHITE DIAMOND CONTAINING BLACK VERY SMALL DIAMOND+MEDIUM DIAMONDaDIAMOND TARGETaBLACK TINY LOZENGE
gVERY SMALL LOZENGEgMEDIUM SMALL LOZENGEaWHITE LOZENGE CONTAINING BLACK SMALL LOZENGE
aTHIN GREEK CROSSaLIGHT GREEK CROSSaMEDIUM GREEK CROSSaBOLD GREEK CROSSaVERY BOLD GREEK CROSS
fHEAVY GREEK CROSSaEXTREMELY HEAVY GREEK CROSSaTHIN SALTIREaLIGHT SALTIREaMEDIUM SALTIRE
aBOLD SALTIREaHEAVY SALTIREaVERY HEAVY SALTIREaEXTREMELY HEAVY SALTIREaLIGHT FIVE SPOKED ASTERISK
aMEDIUM FIVE SPOKED ASTERISKaBOLD FIVE SPOKED ASTERISKaHEAVY FIVE SPOKED ASTERISK
aVERY HEAVY FIVE SPOKED ASTERISKaEXTREMELY HEAVY FIVE SPOKED ASTERISKaLIGHT SIX SPOKED ASTERISK
aMEDIUM SIX SPOKED ASTERISKaBOLD SIX SPOKED ASTERISKaHEAVY SIX SPOKED ASTERISK
aVERY HEAVY SIX SPOKED ASTERISKaEXTREMELY HEAVY SIX SPOKED ASTERISKaLIGHT EIGHT SPOKED ASTERISK
aMEDIUM EIGHT SPOKED ASTERISKaBOLD EIGHT SPOKED ASTERISKaHEAVY EIGHT SPOKED ASTERISK
aVERY HEAVY EIGHT SPOKED ASTERISKaLIGHT THREE POINTED BLACK STARaMEDIUM THREE POINTED BLACK STAR
aTHREE POINTED BLACK STARaMEDIUM THREE POINTED PINWHEEL STARaLIGHT FOUR POINTED BLACK STAR
aMEDIUM FOUR POINTED BLACK STARaFOUR POINTED BLACK STARaMEDIUM FOUR POINTED PINWHEEL STAR
aREVERSE LIGHT FOUR POINTED PINWHEEL STARaLIGHT FIVE POINTED BLACK STAR
aHEAVY FIVE POINTED BLACK STARaMEDIUM SIX POINTED BLACK STARaHEAVY SIX POINTED BLACK STAR
aSIX POINTED PINWHEEL STARaMEDIUM EIGHT POINTED BLACK STARaHEAVY EIGHT POINTED BLACK STAR
aVERY HEAVY EIGHT POINTED BLACK STARaHEAVY EIGHT POINTED PINWHEEL STAR
aLIGHT TWELVE POINTED BLACK STARaHEAVY TWELVE POINTED BLACK STARvPINWHEEL STARaCIRCLED TRIANGLE
aNEGATIVE CIRCLED TRIANGLEaCIRCLED SQUAREaNEGATIVE CIRCLED SQUARE=1F7E0aLARGE ORANGE CIRCLE
gYELLOW CIRCLEgGREEN CIRCLEgPURPLE CIRCLEgBROWN CIRCLEgRED SQUAREgBLUE SQUAREgORANGE SQUARE
gYELLOW SQUAREgGREEN SQUAREgPURPLE SQUAREgBROWN SQUARE=1F7F0aHEAVY EQUALS SIGN
=1F800aLEFTWARDS ARROW WITH SMALL TRIANGLE ARROWHEADaUPWARDS ARROW WITH SMALL TRIANGLE ARROWHEAD
aRIGHTWARDS ARROW WITH SMALL TRIANGLE ARROWHEADaDOWNWARDS ARROW WITH SMALL TRIANGLE ARROWHEAD
aLEFTWARDS ARROW WITH MEDIUM TRIANGLE ARROWHEADaUPWARDS ARROW WITH MEDIUM TRIANGLE ARROWHEAD
aRIGHTWARDS ARROW WITH MEDIUM TRIANGLE ARROWHEADaDOWNWARDS ARROW WITH MEDIUM TRIANGLE ARROWHEAD
aLEFTWARDS ARROW WITH LARGE TRIANGLE ARROWHEADaUPWARDS ARROW WITH LARGE TRIANGLE ARROWHEAD
aRIGHTWARDS ARROW WITH LARGE TRIANGLE ARROWHEADaDOWNWARDS ARROW WITH LARGE TRIANGLE ARROWHEAD
=1F810aLEFTWARDS ARROW WITH SMALL EQUILATERAL ARROWHEAD
aUPWARDS ARROW WITH SMALL EQUILATERAL ARROWHEADaRIGHTWARDS ARROW WITH SMALL EQUILATERAL ARROWHEAD
aDOWNWARDS ARROW WITH SMALL EQUILATERAL ARROWHEADaLEFTWARDS ARROW WITH EQUILATERAL ARROWHEAD
aUPWARDS ARROW WITH EQUILATERAL ARROWHEADaRIGHTWARDS ARROW WITH EQUILATERAL ARROWHEAD
aDOWNWARDS ARROW WITH EQUILATERAL ARROWHEADaHEAVY LEFTWARDS ARROW WITH EQUILATERAL ARROWHEAD
gUPWARDS ARROW WITH EQUILATERAL ARROWHEADgRIGHTWARDS ARROW WITH EQUILATERAL ARROWHEAD
gDOWNWARDS ARROW WITH EQUILATERAL ARROWHEADgLEFTWARDS ARROW WITH LARGE EQUILATERAL ARROWHEAD
gUPWARDS ARROW WITH LARGE EQUILATERAL ARROWHEADgRIGHTWARDS ARROW WITH LARGE EQUILATERAL ARROWHEAD
gDOWNWARDS ARROW WITH LARGE EQUILATERAL ARROWHEADaLEFTWARDS TRIANGLE-HEADED ARROW WITH NARROW SHAFT
aUPWARDS TRIANGLE-HEADED ARROW WITH NARROW SHAFTaRIGHTWARDS TRIANGLE-HEADED ARROW WITH NARROW SHAFT
aDOWNWARDS TRIANGLE-HEADED ARROW WITH NARROW SHAFTaLEFTWARDS TRIANGLE-HEADED ARROW WITH MEDIUM SHAFT
aUPWARDS TRIANGLE-HEADED ARROW WITH MEDIUM SHAFTaRIGHTWARDS TRIANGLE-HEADED ARROW WITH MEDIUM SHAFT
aDOWNWARDS TRIANGLE-HEADED ARROW WITH MEDIUM SHAFTaLEFTWARDS TRIANGLE-HEADED ARROW WITH BOLD SHAFT
aUPWARDS TRIANGLE-HEADED ARROW WITH BOLD SHAFTaRIGHTWARDS TRIANGLE-HEADED ARROW WITH BOLD SHAFT
aDOWNWARDS TRIANGLE-HEADED ARROW WITH BOLD SHAFTaLEFTWARDS TRIANGLE-HEADED ARROW WITH HEAVY SHAFT
aUPWARDS TRIANGLE-HEADED ARROW WITH HEAVY SHAFTaRIGHTWARDS TRIANGLE-HEADED ARROW WITH HEAVY SHAFT
aDOWNWARDS TRIANGLE-HEADED ARROW WITH HEAVY SHAFT
aLEFTWARDS TRIANGLE-HEADED ARROW WITH VERY HEAVY SHAFT
aUPWARDS TRIANGLE-HEADED ARROW WITH VERY HEAVY SHAFT
aRIGHTWARDS TRIANGLE-HEADED ARROW WITH VERY HEAVY SHAFT
aDOWNWARDS TRIANGLE-HEADED ARROW WITH VERY HEAVY SHAFTaLEFTWARDS FINGER-POST ARROW
aUPWARDS FINGER-POST ARROWaRIGHTWARDS FINGER-POST ARROWaDOWNWARDS FINGER-POST ARROW
aLEFTWARDS SQUARED ARROWaUPWARDS SQUARED ARROWaRIGHTWARDS SQUARED ARROWaDOWNWARDS SQUARED ARROW
aLEFTWARDS COMPRESSED ARROWaUPWARDS COMPRESSED ARROWaRIGHTWARDS COMPRESSED ARROW
aDOWNWARDS COMPRESSED ARROWaLEFTWARDS HEAVY COMPRESSED ARROWaUPWARDS HEAVY COMPRESSED ARROW
aRIGHTWARDS HEAVY COMPRESSED ARROWaDOWNWARDS HEAVY COMPRESSED ARROWaLEFTWARDS HEAVY ARROW
aUPWARDS HEAVY ARROWaRIGHTWARDS HEAVY ARROWaDOWNWARDS HEAVY ARROW=1F850aLEFTWARDS SANS-SERIF ARROW
aUPWARDS SANS-SERIF ARROWaRIGHTWARDS SANS-SERIF ARROWaDOWNWARDS SANS-SERIF ARROW
aNORTH WEST SANS-SERIF ARROWgEAST SANS-SERIF ARROWaSOUTH EAST SANS-SERIF ARROWgWEST SANS-SERIF ARROW
aLEFT RIGHT SANS-SERIF ARROWaUP DOWN SANS-SERIF ARROW=1F860aWIDE-HEADED LEFTWARDS LIGHT BARB ARROW
mUPWARDS LIGHT BARB ARROWmRIGHTWARDS LIGHT BARB ARROWmDOWNWARDS LIGHT BARB ARROW
mNORTH WEST LIGHT BARB ARROWsEAST LIGHT BARB ARROWmSOUTH EAST LIGHT BARB ARROWsWEST LIGHT BARB ARROW
mLEFTWARDS BARB ARROWmUPWARDS BARB ARROWmRIGHTWARDS BARB ARROWmDOWNWARDS BARB ARROW
mNORTH WEST BARB ARROWsEAST BARB ARROWmSOUTH EAST BARB ARROWsWEST BARB ARROW
mLEFTWARDS MEDIUM BARB ARROWmUPWARDS MEDIUM BARB ARROWmRIGHTWARDS MEDIUM BARB ARROW
mDOWNWARDS MEDIUM BARB ARROWmNORTH WEST MEDIUM BARB ARROWsEAST MEDIUM BARB ARROW
mSOUTH EAST MEDIUM BARB ARROWsWEST MEDIUM BARB ARROWmLEFTWARDS HEAVY BARB ARROW
mUPWARDS HEAVY BARB ARROWmRIGHTWARDS HEAVY BARB ARROWmDOWNWARDS HEAVY BARB ARROW
mNORTH WEST HEAVY BARB ARROWsEAST HEAVY BARB ARROWmSOUTH EAST HEAVY BARB ARROWsWEST HEAVY BARB ARROW
mLEFTWARDS VERY HEAVY BARB ARROWmUPWARDS VERY HEAVY BARB ARROWmRIGHTWARDS VERY HEAVY BARB ARROW
mDOWNWARDS VERY HEAVY BARB ARROWmNORTH WEST VERY HEAVY BARB ARROWsEAST VERY HEAVY BARB ARROW
mSOUTH EAST VERY HEAVY BARB ARROWsWEST VERY HEAVY BARB ARROW=1F890aLEFTWARDS TRIANGLE ARROWHEAD
aUPWARDS TRIANGLE ARROWHEADaRIGHTWARDS TRIANGLE ARROWHEADaDOWNWARDS TRIANGLE ARROWHEAD
aLEFTWARDS WHITE ARROW WITHIN TRIANGLE ARROWHEADaUPWARDS WHITE ARROW WITHIN TRIANGLE ARROWHEAD
aRIGHTWARDS WHITE ARROW WITHIN TRIANGLE ARROWHEADaDOWNWARDS WHITE ARROW WITHIN TRIANGLE ARROWHEAD
aLEFTWARDS ARROW WITH NOTCHED TAILaUPWARDS ARROW WITH NOTCHED TAIL
aRIGHTWARDS ARROW WITH NOTCHED TAILaDOWNWARDS ARROW WITH NOTCHED TAILaHEAVY ARROW SHAFT WIDTH ONE
yTWO THIRDSyONE HALF(THIRDaLEFTWARDS BOTTOM-SHADED WHITE ARROWaRIGHTWARDS BOTTOM SHADED WHITE ARROW
aLEFTWARDS TOP SHADED WHITE ARROWaRIGHTWARDS TOP SHADED WHITE ARROW
aLEFTWARDS LEFT-SHADED WHITE ARROWaRIGHTWARDS RIGHT-SHADED WHITE ARROW
aLEFTWARDS RIGHT-SHADED WHITE ARROWaRIGHTWARDS LEFT-SHADED WHITE ARROW
aLEFTWARDS BACK-TILTED SHADOWED WHITE ARROWaRIGHTWARDS BACK-TILTED SHADOWED WHITE ARROW
aLEFTWARDS FRONT-TILTED SHADOWED WHITE ARROWaRIGHTWARDS FRONT-TILTED SHADOWED WHITE ARROW
aWHITE ARROW SHAFT WIDTH ONEyTWO THIRDS=1F8B0aARROW POINTING UPWARDS THEN NORTH WEST
pRIGHTWARDS THEN CURVING SOUTH WEST=1F900aCIRCLED CROSS FORMEE WITH FOUR DOTS!TWO DOTSu
aLEFT HALF CIRCLE WITH FOUR DOTSwTHREE DOTSxWO DOTSwDOTqaDOWNWARD FACING HOOKqNOTCHED HOOK
qHOOK WITH DOTqNOTCHED HOOK WITH DOTaPINCHED FINGERSaWHITE HEARTaBROWN HEARTaPINCHING HAND
aZIPPER-MOUTH FACEaMONEY-MOUTH FACEaFACE WITH THERMOMETERaNERD FACEaTHINKING FACE
aFACE WITH HEAD-BANDAGEaROBOT FACEaHUGGING FACEaSIGN OF THE HORNSaCALL ME HANDaRAISED BACK OF HAND
aLEFT-FACING FISTaRIGHT-FACING FISTaHANDSHAKEe WITH INDEX AND MIDDLE FINGERS CROSSED
aI LOVE YOU HAND SIGNaFACE WITH COWBOY HATaCLOWN FACEaNAUSEATED FACEaROLLING ON THE FLOOR LAUGHING
aDROOLING FACEaLYING FACEaFACE PALMaSNEEZING FACEaFACE WITH ONE EYEBROW RAISED
aGRINNING FACE WITH STAR EYEStONE LARGE AND ONE SMALL EYEaFACE WITH FINGER COVERING CLOSED LIPS
aSERIOUS FACE WITH SYMBOLS COVERING MOUTHbMILING FACE WITH SMILING EYES AND HAND COVERING MOUTH
aFACE WITH OPEN MOUTH VOMITINGaSHOCKED FACE WITH EXPLODING HEADaPREGNANT WOMANaBREAST-FEEDING
aPALMS UP TOGETHERaSELFIEaPRINCEaMAN IN TUXEDObOTHER CHRISTMASaSHRUGaPERSON DOING CARTWHEELaJUGGLING
aFENCERaMODERN PENTATHLONaWRESTLERSbATER POLOaHANDBALLaDIVING MASKaWILTED FLOWER
aDRUM WITH DRUMSTICKSaCLINKING GLASSESaTUMBLER GLASSaSPOONaGOAL NETaRIFLEaFIRST PLACE MEDAL
aSECOND PLACE MEDALaTHIRD PLACE MEDALaBOXING GLOVEaMARTIAL ARTS UNIFORMaCURLING STONE
aLACROSSE STICK AND BALLaSOFTBALLaFLYING DISCaCROISSANTaAVOCADOaCUCUMBERaBACONaPOTATOaCARROT
aBAGUETTE BREADaGREEN SALADaSHALLOW PAN OF FOODbTUFFED FLATBREADaEGGaGLASS OF MILKaPEANUTSaKIWIFRUIT
aPANCAKESaDUMPLINGaFORTUNE COOKIEaTAKEOUT BOXaCHOPSTICKSaBOWL WITH SPOONaCUP WITH STRAWbOCONUT
aBROCCOLIaPIEbRETZELaCUT OF MEATaSANDWICHaCANNED FOODaLEAFY GREENaMANGObOON CAKEaBAGEL
aSMILING FACE WITH SMILING EYES AND THREE HEARTSaYAWNING FACEaSMILING FACE WITH TEAR
aFACE WITH PARTY HORN AND PARTY HATkUNEVEN EYES AND WAVY MOUTHaOVERHEATED FACEaFREEZING FACEaNINJA
aDISGUISED FACEaFACE HOLDING BACK TEARSfWITH PLEADING EYESaSARIaLAB COATaGOGGLESaHIKING BOOT
aFLAT SHOEaCRABaLION FACEaSCORPIONaTURKEYaUNICORN FACEaEAGLEaDUCKaBATaSHARKaOWLaFOX FACEaBUTTERFLY
aDEERaGORILLAaLIZARDaRHINOCEROSaSHRIMPbQUIDaGIRAFFE FACEaZEBRA FACEaHEDGEHOGaSAUROPODaT-REXaCRICKET
aKANGAROOaLLAMAaPEACOCKaHIPPOPOTAMUSaPARROTaRACCOONaLOBSTERaMOSQUITObICROBEaBADGERaSWANaMAMMOTHaDODO
aSLOTHaOTTERbRANGUTANaSKUNKaFLAMINGOaOYSTERaBEAVERbISONaSEALaGUIDE DOGaPROBING CANE
aEMOJI COMPONENT RED HAIRqCURLY HAIRqBALDqWHITE HAIRaBONEaLEGaFOOTaTOOTHaSUPERHEROfVILLAIN
bAFETY VESTaEAR WITH HEARING AIDaMOTORIZED WHEELCHAIRbANUAL WHEELCHAIRbECHANICAL ARMlLEG
aCHEESE WEDGEbUPCAKEaSALT SHAKERaBEVERAGE BOXaGARLICaONIONaFALAFELaWAFFLEaBUTTERaMATE DRINKaICE CUBE
aBUBBLE TEAaTROLLaSTANDING PERSONaKNEELING PERSONaDEAF PERSONaFACE WITH MONOCLEaADULTaCHILD
aOLDER ADULTaBEARDED PERSONaPERSON WITH HEADSCARFhIN STEAMY ROOMhCLIMBINGhIN LOTUS POSITIONaMAGE
aFAIRYaVAMPIREaMERPERSONaELFaGENIEaZOMBIEaBRAINaORANGE HEARTaBILLED CAPaSCARFaGLOVESaCOATaSOCKS
aRED GIFT ENVELOPEaFIRECRACKERaJIGSAW PUZZLE PIECEaTEST TUBEaPETRI DISHaDNA DOUBLE HELIXaCOMPASS
aABACUSaFIRE EXTINGUISHERaTOOLBOXaBRICKaMAGNETaLUGGAGEbOTION BOTTLEaSPOOL OF THREADaBALL OF YARN
aSAFETY PINaTEDDY BEARaBROOMbASKETaROLL OF PAPERaBAR OF SOAPaSPONGEaRECEIPTaNAZAR AMULET
bEUTRAL CHESS KINGoQUEENoROOKoBISHOPoKNIGHToPAWNaWHITE CHESS KNIGHT ROTATED FORTY-FIVE DEGREES
aBLACK CHESS KNIGHT ROTATED FORTY-FIVE DEGREESaNEUTRAL CHESS KNIGHT ROTATED FORTY-FIVE DEGREES
aWHITE CHESS KING ROTATED NINETY DEGREESmQUEEN ROTATED NINETY DEGREESmROOK ROTATED NINETY DEGREES
mBISHOP ROTATED NINETY DEGREESmKNIGHT ROTATED NINETY DEGREESmPAWN ROTATED NINETY DEGREES
aBLACK CHESS KING ROTATED NINETY DEGREESmQUEEN ROTATED NINETY DEGREESmROOK ROTATED NINETY DEGREES
mBISHOP ROTATED NINETY DEGREESmKNIGHT ROTATED NINETY DEGREESmPAWN ROTATED NINETY DEGREES
aNEUTRAL CHESS KING ROTATED NINETY DEGREESoQUEEN ROTATED NINETY DEGREESoROOK ROTATED NINETY DEGREES
oBISHOP ROTATED NINETY DEGREESoKNIGHT ROTATED NINETY DEGREESoPAWN ROTATED NINETY DEGREES
aWHITE CHESS KNIGHT ROTATED ONE HUNDRED THIRTY-FIVE DEGREES
aBLACK CHESS KNIGHT ROTATED ONE HUNDRED THIRTY-FIVE DEGREES
aNEUTRAL CHESS KNIGHT ROTATED ONE HUNDRED THIRTY-FIVE DEGREESaWHITE CHESS TURNED KINGtQUEENtROOK
tBISHOPtKNIGHTtPAWNaBLACK CHESS TURNED KINGtQUEENtROOKtBISHOPtKNIGHTtPAWNaNEUTRAL CHESS TURNED KING
vQUEENvROOKvBISHOPvKNIGHTvPAWNaWHITE CHESS KNIGHT ROTATED TWO HUNDRED TWENTY-FIVE DEGREES
aBLACK CHESS KNIGHT ROTATED TWO HUNDRED TWENTY-FIVE DEGREES
aNEUTRAL CHESS KNIGHT ROTATED TWO HUNDRED TWENTY-FIVE DEGREES
aWHITE CHESS KING ROTATED TWO HUNDRED SEVENTY DEGREESmQUEEN ROTATED TWO HUNDRED SEVENTY DEGREES
mROOK ROTATED TWO HUNDRED SEVENTY DEGREESmBISHOP ROTATED TWO HUNDRED SEVENTY DEGREES
mKNIGHT ROTATED TWO HUNDRED SEVENTY DEGREESmPAWN ROTATED TWO HUNDRED SEVENTY DEGREES
aBLACK CHESS KING ROTATED TWO HUNDRED SEVENTY DEGREESmQUEEN ROTATED TWO HUNDRED SEVENTY DEGREES
mROOK ROTATED TWO HUNDRED SEVENTY DEGREESmBISHOP ROTATED TWO HUNDRED SEVENTY DEGREES
mKNIGHT ROTATED TWO HUNDRED SEVENTY DEGREESmPAWN ROTATED TWO HUNDRED SEVENTY DEGREES
aNEUTRAL CHESS KING ROTATED TWO HUNDRED SEVENTY DEGREESoQUEEN ROTATED TWO HUNDRED SEVENTY DEGREES
oROOK ROTATED TWO HUNDRED SEVENTY DEGREESoBISHOP ROTATED TWO HUNDRED SEVENTY DEGREES
oKNIGHT ROTATED TWO HUNDRED SEVENTY DEGREESoPAWN ROTATED TWO HUNDRED SEVENTY DEGREES
aWHITE CHESS KNIGHT ROTATED THREE HUNDRED FIFTEEN DEGREES
aBLACK CHESS KNIGHT ROTATED THREE HUNDRED FIFTEEN DEGREES
aNEUTRAL CHESS KNIGHT ROTATED THREE HUNDRED FIFTEEN DEGREESaWHITE CHESS EQUIHOPPER
aBLACK CHESS EQUIHOPPERaNEUTRAL CHESS EQUIHOPPERaWHITE CHESS EQUIHOPPER ROTATED NINETY DEGREES
aBLACK CHESS EQUIHOPPER ROTATED NINETY DEGREESaNEUTRAL CHESS EQUIHOPPER ROTATED NINETY DEGREES
aWHITE CHESS KNIGHT-QUEENtROOKtBISHOPaBLACK CHESS KNIGHT-QUEENtROOKtBISHOP=1FA60aXIANGQI RED GENERAL
mMANDARINmELEPHANTmHORSEmCHARIOTnANNONmSOLDIERiBLACK GENERALoMANDARINoELEPHANToHORSEoCHARIOTpANNON
oSOLDIER=1FA70aBALLET SHOESaONE-PIECE SWIMSUITaBRIEFSaSHORTSaTHONG SANDAL=1FA78aDROP OF BLOOD
aADHESIVE BANDAGEaSTETHOSCOPEaX-RAYaCRUTCH=1FA80aYO-YOaKITEaPARACHUTEaBOOMERANGaMAGIC WANDaPINATA
aNESTING DOLLS=1FA90aRINGED PLANETaCHAIRaRAZORaAXEaDIYA LAMPaBANJOaMILITARY HELMETaACCORDION
aLONG DRUMaCOINbARPENTRY SAWaSCREWDRIVERaLADDERaHOOKaMIRRORaWINDOWaPLUNGERaSEWING NEEDLEaKNOTaBUCKET
aMOUSE TRAPaTOOTHBRUSHaHEADSTONEaPLACARDaROCKaMIRROR BALLaIDENTIFICATION CARDaLOW BATTERYaHAMSA
=1FAB0aFLYaWORMaBEETLEaCOCKROACHaPOTTED PLANTaWOODaFEATHERaLOTUSaCORALaEMPTY NESTaNEST WITH EGGS
=1FAC0aANATOMICAL HEARTaLUNGSaPEOPLE HUGGINGbREGNANT MANjPERSONbERSON WITH CROWN=1FAD0aBLUEBERRIES
bELL PEPPERaOLIVEaFLATBREADaTAMALEaFONDUEaTEAPOTaPOURING LIQUIDaBEANSaJAR=1FAE0aMELTING FACE
aSALUTING FACEaFACE WITH OPEN EYES AND HAND OVER MOUTHkPEEKING EYEkDIAGONAL MOUTHaDOTTED LINE FACE
aBITING LIPbUBBLES=1FAF0aHAND WITH INDEX FINGER AND THUMB CROSSEDaRIGHTWARDS HANDaLEFTWARDS HAND
aPALM DOWN HANDfUP HANDaINDEX POINTING AT THE VIEWERaHEART HANDS=1FB00aBLOCK SEXTANT-1o2o12o3o13o23
o123o4o14o24o124o34o134o234o1234o5o15o25o125o35o235o1235o45o145o245o1245o345o1345o2345o12345o6o16o26
o126o36o136o236o1236o46o146p246o346o1346o2346o12346o56o156o256o1256o356o1356o2356o12356o456o1456
o2456o12456o3456o13456o23456aLOWER LEFT BLOCK DIAGONAL LOWER MIDDLE LEFT TO LOWER CENTRE
~TO LOWER RIGHT!UPPER MIDDLE LEFT TO LOWER CENTRE~TO LOWER RIGHT,LEFT TO LOWER CENTRE
gRIGHT BLOCK DIAGONAL UPPER MIDDLE LEFT TO UPPER CENTRE~ TO UPPER RIGHT
&LOWER MIDDLE LEFT TO UPPER CENTRE~ TO UPPER RIGHT.LEFT TO UPPER CENTRE
.MIDDLE LEFT TO UPPER MIDDLE RIGHT.CENTRE TO LOWER MIDDLE RIGHT.LEFT TO LOWER MIDDLE RIGHT
.CENTRE TO UPPER MIDDLE RIGHT.LEFT TO UPPER MIDDLE RIGHT.CENTRE TO UPPER RIGHT
gLEFT BLOCK DIAGONAL UPPER CENTRE TO UPPER MIDDLE RIGHT,LEFT TO UPPER MIDDLE RIGHT
,CENTRE TO LOWER MIDDLE RIGHT,LEFT TO LOWER MIDDLE RIGHT,CENTRE TO LOWER RIGHT
,MIDDLE LEFT TO LOWER MIDDLE RIGHTaUPPER RIGHT BLOCK DIAGONAL LOWER MIDDLE LEFT TO LOWER CENTRE
~ TO LOWER RIGHT&UPPER MIDDLE LEFT TO LOWER CENTRE~ TO LOWER RIGHT.LEFT TO LOWER CENTRE
gLEFT BLOCK DIAGONAL UPPER MIDDLE LEFT TO UPPER CENTRE~TO UPPER RIGHT
!LOWER MIDDLE LEFT TO UPPER CENTRE~TO UPPER RIGHT,LEFT TO UPPER CENTRE
,MIDDLE LEFT TO UPPER MIDDLE RIGHT,CENTRE TO LOWER MIDDLE RIGHT,LEFT TO LOWER MIDDLE RIGHT
,CENTRE TO UPPER MIDDLE RIGHT,LEFT TO UPPER MIDDLE RIGHT,CENTRE TO UPPER RIGHT
gRIGHT BLOCK DIAGONAL UPPER CENTRE TO UPPER MIDDLE RIGHT.LEFT TO UPPER MIDDLE RIGHT
.CENTRE TO LOWER MIDDLE RIGHT.LEFT TO LOWER MIDDLE RIGHT.CENTRE TO LOWER RIGHT
.MIDDLE LEFT TO LOWER MIDDLE RIGHTgAND RIGHT AND LOWER TRIANGULAR THREE QUARTERS BLOCK
aLEFT AND LOWER AND RIGHT TRIANGULAR THREE QUARTERS BLOCK
aUPPER AND LEFT AND LOWER TRIANGULAR THREE QUARTERS BLOCK
aLEFT AND UPPER AND RIGHT TRIANGULAR THREE QUARTERS BLOCKfTRIANGULAR ONE QUARTER BLOCK
aUPPER TRIANGULAR ONE QUARTER BLOCKaRIGHT TRIANGULAR ONE QUARTER BLOCK
aLOWER TRIANGULAR ONE QUARTER BLOCKaVERTICAL ONE EIGHTH BLOCK-2!3!4!5!6!7
aHORIZONTAL ONE EIGHTH BLOCK-2(3(4(5(6(7aLEFT AND LOWER ONE EIGHTH BLOCKjUPPER ONE EIGHTH BLOCK
aRIGHT AND UPPER ONE EIGHTH BLOCKkLOWER ONE EIGHTH BLOCKaUPPER AND LOWER ONE EIGHTH BLOCK
aHORIZONTAL ONE EIGHTH BLOCK-1358aUPPER ONE QUARTER BLOCKgTHREE EIGHTHS BLOCKgFIVE EIGHTHS BLOCK
gTHREE QUARTERS BLOCKgSEVEN EIGHTHS BLOCKaRIGHT ONE QUARTER BLOCKgTHREE EIGHTHS BLOCK
gFIVE EIGHTHS BLOCKgTHREE QUARTERS BLOCKgSEVEN EIGHTHS BLOCKaLEFT HALF MEDIUM SHADE
aRIGHT HALF MEDIUM SHADEaUPPER HALF MEDIUM SHADEaLOWER HALF MEDIUM SHADEaINVERSE MEDIUM SHADE
aUPPER HALF BLOCK AND LOWER HALF INVERSE MEDIUM SHADElINVERSE MEDIUM SHADE AND LOWER HALF BLOCK
=1FB94aLEFT HALF INVERSE MEDIUM SHADE AND RIGHT HALF BLOCKaCHECKER BOARD FILL
aINVERSE CHECKER BOARD FILLaHEAVY HORIZONTAL FILLaUPPER LEFT TO LOWER RIGHT FILL
gRIGHT TO LOWER LEFT FILLgAND LOWER TRIANGULAR HALF BLOCKaLEFT AND RIGHT TRIANGULAR HALF BLOCK
aUPPER LEFT TRIANGULAR MEDIUM SHADEgRIGHT TRIANGULAR MEDIUM SHADE
aLOWER RIGHT TRIANGULAR MEDIUM SHADEgLEFT TRIANGULAR MEDIUM SHADE
aBOX DRAWINGS LIGHT DIAGONAL UPPER CENTRE TO MIDDLE LEFT~MIDDLE RIGHT(MIDDLE LEFT TO LOWER CENTRE
;RIGHT TO LOWER CENTRE(UPPER CENTRE TO MIDDLE LEFT TO LOWER CENTRE~MIDDLE RIGHT TO LOWER CENTRE
(MIDDLE LEFT TO LOWER CENTRE TO MIDDLE RIGHT|UPPER CENTRE TO MIDDLE RIGHT
(UPPER CENTRE TO MIDDLE LEFT AND MIDDLE RIGHT TO LOWER CENTRE
~MIDDLE RIGHT AND MIDDLE LEFT TO LOWER CENTRE~MIDDLE RIGHT TO LOWER CENTRE TO MIDDLE LEFT
~MIDDLE LEFT TO LOWER CENTRE TO MIDDLE RIGHT
(MIDDLE LEFT TO UPPER CENTRE TO MIDDLE RIGHT TO LOWER CENTRE
;RIGHT TO UPPER CENTRE TO MIDDLE LEFT TO LOWER CENTRE(DIAMONDtHORIZONTAL WITH VERTICAL STROKE
aARROWHEAD-SHAPED POINTERaINVERSE CHECK MARKaLEFT HALF RUNNING MANaRIGHT HALF RUNNING MAN
aINVERSE DOWNWARDS ARROW WITH TIP LEFTWARDSaLEFTWARDS ARROW AND UPPER AND LOWER ONE EIGHTH BLOCK
aRIGHTWARDS ARROW AND UPPER AND LOWER ONE EIGHTH BLOCKaDOWNWARDS ARROW AND RIGHT ONE EIGHTH BLOCK
aUPWARDS ARROW AND RIGHT ONE EIGHTH BLOCKaLEFT HALF FOLDERaRIGHT HALF FOLDERaVOIDED GREEK CROSS
aRIGHT OPEN SQUARED DOTaNEGATIVE DIAGONAL CROSSsMIDDLE RIGHT TO LOWER CENTREsDIAMOND
aWHITE HEAVY SALTIRE WITH ROUNDED CORNERSaLEFT THIRD WHITE RIGHT POINTING INDEX
aMIDDLE THIRD WHITE RIGHT POINTING INDEXaRIGHT THIRD WHITE RIGHT POINTING INDEX
aNEGATIVE SQUARED QUESTION MARKaSTICK FIGUREm WITH ARMS RAISEDnLEANING LEFTvRIGHTnWITH DRESS
aWHITE UP-POINTING CHEVRON=1FBF0aSEGMENTED DIGIT ZEROqONEqTWOrHREEqFOURrIVEqSIXrEVENqEIGHTqNINE
=2F800aCJK COMPATIBILITY IDEOGRAPH-2F800,1,2,3,4,5,6,7,8,9,A,B,C,D,E,F+10,1,2,3,4,5,6,7,8,9,A,B,C,D
,E,F+20,1,2,3,4,5,6,7,8,9,A,B,C,D,E,F+30,1,2,3,4,5,6,7,8,9,A,B,C,D,E,F+40,1,2,3,4,5,6,7,8,9,A,B,C,D
,E,F+50,1,2,3,4,5,6,7,8,9,A,B,C,D,E,F+60,1,2,3,4,5,6,7,8,9,A,B,C,D,E,F+70,1,2,3,4,5,6,7,8,9,A,B,C,D
,E,F+80,1,2,3,4,5,6,7,8,9,A,B,C,D,E,F+90,1,2,3,4,5,6,7,8,9,A,B,C,D,E,F+A0,1,2,3,4,5,6,7,8,9,A,B,C,D
,E,F+B0,1,2,3,4,5,6,7,8,9,A,B,C,D,E,F+C0,1,2,3,4,5,6,7,8,9,A,B,C,D,E,F+D0,1,2,3,4,5,6,7,8,9,A,B,C,D
,E,F+E0,1,2,3,4,5,6,7,8,9,A,B,C,D,E,F+F0,1,2,3,4,5,6,7,8,9,A,B,C,D,E,F*900,1,2,3,4,5,6,7,8,9,A,B,C,D
,E,F+10,1,2,3,4,5,6,7,8,9,A,B,C,D,E,F+20,1,2,3,4,5,6,7,8,9,A,B,C,D,E,F+30,1,2,3,4,5,6,7,8,9,A,B,C,D
,E,F+40,1,2,3,4,5,6,7,8,9,A,B,C,D,E,F+50,1,2,3,4,5,6,7,8,9,A,B,C,D,E,F+60,1,2,3,4,5,6,7,8,9,A,B,C,D
,E,F+70,1,2,3,4,5,6,7,8,9,A,B,C,D,E,F+80,1,2,3,4,5,6,7,8,9,A,B,C,D,E,F+90,1,2,3,4,5,6,7,8,9,A,B,C,D
,E,F+A0,1,2,3,4,5,6,7,8,9,A,B,C,D,E,F+B0,1,2,3,4,5,6,7,8,9,A,B,C,D,E,F+C0,1,2,3,4,5,6,7,8,9,A,B,C,D
,E,F+D0,1,2,3,4,5,6,7,8,9,A,B,C,D,E,F+E0,1,2,3,4,5,6,7,8,9,A,B,C,D,E,F+F0,1,2,3,4,5,6,7,8,9,A,B,C,D
,E,F*A00,1,2,3,4,5,6,7,8,9,A,B,C,D,E,F+10,1,2,3,4,5,6,7,8,9,A,B,C,D=E0001aLANGUAGE TAG
=E0020aTAG SPACEeEXCLAMATION MARKeQUOTATION MARKeNUMBER SIGNeDOLLAR SIGNePERCENT SIGNeAMPERSAND
fPOSTROPHEeLEFT PARENTHESISeRIGHT PARENTHESISeASTERISKePLUS SIGNeCOMMAeHYPHEN-MINUSeFULL STOP
eSOLIDUSeDIGIT ZEROkONEkTWOlHREEkFOURlIVEkSIXlEVENkEIGHTkNINEeCOLONeSEMICOLONeLESS-THAN SIGN
eEQUALS SIGNeGREATER-THAN SIGNeQUESTION MARKeCOMMERCIAL ATeLATIN CAPITAL LETTER AzBzCzDzEzFzGzHzIzJ
zKzLzMzNzOzPzQzRzSzTzUzVzWzXzYzZfEFT SQUARE BRACKETeREVERSE SOLIDUSfIGHT SQUARE BRACKET
eCIRCUMFLEX ACCENTeLOW LINEeGRAVE ACCENTeLATIN SMALL LETTER AxBxCxDxExFxGxHxIxJxKxLxMxNxOxPxQxRxSxT
xUxVxWxXxYxZfEFT CURLY BRACKETeVERTICAL LINEeRIGHT CURLY BRACKETeTILDEaCANCEL TAG
=E0100aVARIATION SELECTOR-17u8u9t20u1u2u3u4u5u6u7u8u9t30u1u2u3u4u5u6u7u8u9t40u1u2u3u4u5u6u7u8u9t50u1
u2u3u4u5u6u7u8u9t60u1u2u3u4u5u6u7u8u9t70u1u2u3u4u5u6u7u8u9t80u1u2u3u4u5u6u7u8u9t90u1u2u3u4u5u6u7u8u9
t100v1v2v3v4v5v6v7v8v9u10v1v2v3v4v5v6v7v8v9u20v1v2v3v4v5v6v7v8v9u30v1v2v3v4v5v6v7v8v9u40v1v2v3v4v5v6
v7v8v9u50v1v2v3v4v5v6v7v8v9u60v1v2v3v4v5v6v7v8v9u70v1v2v3v4v5v6v7v8v9u80v1v2v3v4v5v6v7v8v9u90v1v2v3
v4v5v6v7v8v9t200v1v2v3v4v5v6v7v8v9u10v1v2v3v4v5v6v7v8v9u20v1v2v3v4v5v6v7v8v9u30v1v2v3v4v5v6v7v8v9u40
v1v2v3v4v5v6v7v8v9u50v1v2v3v4v5v6=0aNUL=0dLaSOH=1bTART OF HEADINGjTEXT=2cXaEND OF TEXT=3bTX
bND OF TRANSMISSION=4bOTbNQ=5dUIRYaACK=6dNOWLEDGEbLERT=7aBELbACKSPACE=8bSaCHARACTER TABULATION
=9aHORIZONTAL TABULATION=9bT=9aTABaEND OF LINE=AbOL=AaLF=AbINE FEED=AaNEW LINE=AbLaLINE TABULATION
=BaVERTICAL TABULATION=BbTaFF=CbORM FEEDaCARRIAGE RETURN=DbRaLOCKING-SHIFT ONE=EaSHIFT OUT=EbO
aLOCKING-SHIFT ZERO=FaSHIFT IN=FbIaDATA LINK ESCAPE=10bLEbC1=11bEVICE CONTROL ONEbC2
=12bEVICE CONTROL TWObC3=13bEVICE CONTROL THREEbC4=14bEVICE CONTROL FOURaNAK=15bEGATIVE ACKNOWLEDGE
aSYN=16dCHRONOUS IDLEaEND OF TRANSMISSION BLOCK=17bTBaCAN=18dCELaEND OF MEDIUM=19bOMaSUB=1AdSTITUTE
aESC=1BdAPEaFILE SEPARATOR=1CbS=1CaINFORMATION SEPARATOR FOURaGROUP SEPARATOR=1DbS
=1DaINFORMATION SEPARATOR THREExWO=1EaRECORD SEPARATOR=1EbSaINFORMATION SEPARATOR ONE
=1FaUNIT SEPARATOR=1FbSaSP=7FaDEL=7FdETEaPAD=80dDING CHARACTERaHIGH OCTET PRESET=81bOPaBPH
=82bREAK PERMITTED HEREaNBH=83bO BREAK HEREaIND=84dEXaNEL=85cXT LINEaSSA=86bTART OF SELECTED AREA
aEND OF SELECTED AREA=87bSAaCHARACTER TABULATION SET=88aHORIZONTAL TABULATION SET=88bTS
aCHARACTER TABULATION WITH JUSTIFICATION=89aHORIZONTAL TABULATION WITH JUSTIFICATION=89bTJ
aLINE TABULATION SET=8AaVERTICAL TABULATION SET=8AbTSaPARTIAL LINE DOWN=8BnFORWARD=8BbLD
bARTIAL LINE BACKWARD=8CnUP=8CbLUaREVERSE INDEX=8DiLINE FEED=8DbIaSINGLE SHIFT TWO=8Eg-SHIFT-2=8EbS2
bINGLE SHIFT THREE=8Fg-SHIFT-3=8FbS3aDCS=90bEVICE CONTROL STRINGaPRIVATE USE ONE=91l-1=91bU1
bRIVATE USE TWO=92l-2=92bU2aSET TRANSMIT STATE=93bTSaCANCEL CHARACTER=94bCHaMESSAGE WAITING=95bWaSPA
=96bTART OF GUARDED AREA=96jPROTECTED AREAaEND OF GUARDED AREA=97hPROTECTED AREA=97bPAaSOS
=98bTART OF STRINGbGC=99bINGLE GRAPHIC CHARACTER INTRODUCERbCI=9AbINGLE CHARACTER INTRODUCER
aCONTROL SEQUENCE INTRODUCER=9BbSIaST=9CcRING TERMINATORaOPERATING SYSTEM COMMAND=9DbSCaPM
=9EbRIVACY MESSAGEaAPC=9FcPLICATION PROGRAM COMMANDaNBSP=ADaSHY=1A2aLATIN CAPITAL LETTER GHA
gSMALL LETTER GHA=34FaCGJ=61CaALM=709aSYRIAC SUBLINEAR COLON SKEWED LEFT=CDEaKANNADA LETTER LLLA
=E9DaLAO LETTER FO FON=E9FpAY=EA3lRO=EA5lLO=FD0aTIBETAN MARK BKA- SHOG GI MGO RGYAN
=11ECaHANGUL JONGSEONG YESIEUNG-KIYEOK!SSANGKIYEOKrSSANGYESIEUNGrYESIEUNG-KHIEUKH=180BaFVS1d2d3aMVS
aFVS4=200BaZWSPcNJcJaLRMaRLM=202AaLREaRLEaPDFaLROaRLOaNNBSP=205FaMMSPaWJ=2066aLRIaRLIaFSIaPDI
=2118aWEIERSTRASS ELLIPTIC FUNCTION=2448aMICR ON US SYMBOLfDASH SYMBOL
=2B7AaLEFTWARDS TRIANGLE-HEADED ARROW WITH DOUBLE VERTICAL STROKE
=2B7CaRIGHTWARDS TRIANGLE-HEADED ARROW WITH DOUBLE VERTICAL STROKE=A015aYI SYLLABLE ITERATION MARK
=AA6EaMYANMAR LETTER KHAMTI LLA=FE18aPRESENTATION FORM FOR VERTICAL RIGHT WHITE LENTICULAR BRACKET
=FEFFaBOM=FEFFbYTE ORDER MARK=FEFFaZWNBSP=122D4aCUNEIFORM SIGN NU11 TENUuOVER NU11 BUR OVER BUR
=16E56aMEDEFAIDRIN CAPITAL LETTER H&NG=16E76mSMALL LETTER HzNG=1B001aHENTAIGANA LETTER E-1
=1D0C5aBYZANTINE MUSICAL SYMBOL FTHORA SKLIRON CHROMA VASIS=FE00aVS1c2c3c4c5c6c7c8c9c10d1d2d3d4d5d6
=E0100d7d8d9c20d1d2d3d4d5d6d7d8d9c30d1d2d3d4d5d6d7d8d9c40d1d2d3d4d5d6d7d8d9c50d1d2d3d4d5d6d7d8d9c60
d1d2d3d4d5d6d7d8d9c70d1d2d3d4d5d6d7d8d9c80d1d2d3d4d5d6d7d8d9c90d1d2d3d4d5d6d7d8d9c100e1e2e3e4e5e6e7
e8e9d10e1e2e3e4e5e6e7e8e9d20e1e2e3e4e5e6e7e8e9d30e1e2e3e4e5e6e7e8e9d40e1e2e3e4e5e6e7e8e9d50e1e2e3e4
e5e6e7e8e9d60e1e2e3e4e5e6e7e8e9d70e1e2e3e4e5e6e7e8e9d80e1e2e3e4e5e6e7e8e9d90e1e2e3e4e5e6e7e8e9c200e1
e2e3e4e5e6e7e8e9d10e1e2e3e4e5e6e7e8e9d20e1e2e3e4e5e6e7e8e9d30e1e2e3e4e5e6e7e8e9d40e1e2e3e4e5e6e7e8e9
d50e1e2e3e4e5e6"

end FieldRules.Unicode.Tables
