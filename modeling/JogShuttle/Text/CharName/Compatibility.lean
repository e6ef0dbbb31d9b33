import JogShuttle.Text.CharName.Run

/-!
# Names: compatibility

The names of compatible forms, and ancient alphabets beyond the basic plane (Unicode 14).
-/

set_option autoImplicit false

namespace JogShuttle.Text

def compatibilityRuns : List NameRun :=
  [⟨0xfb00, "LATIN SMALL LIGATURE ", ["FF|FI|FL|FFI|FFL|LONG S T|ST"]⟩,
   ⟨0xfb13, "ARMENIAN SMALL LIGATURE ", ["MEN NOW|MEN ECH|MEN INI|VEW NOW|MEN XEH"]⟩,
   ⟨0xfb1d, "HEBREW ", ["LETTER YOD WITH HIRIQ|POINT JUDEO-SPANISH VARIKA",
     "LIGATURE YIDDISH YOD YOD PATAH"]⟩,
   ⟨0xfb20, "HEBREW LETTER ", ["ALTERNATIVE AYIN|WIDE ALEF|WIDE DALET|WIDE HE|WIDE KAF",
     "WIDE LAMED|WIDE FINAL MEM|WIDE RESH|WIDE TAV|ALTERNATIVE PLUS SIGN|SHIN WITH SHIN DOT",
     "SHIN WITH SIN DOT|SHIN WITH DAGESH AND SHIN DOT|SHIN WITH DAGESH AND SIN DOT",
     "ALEF WITH PATAH|ALEF WITH QAMATS|ALEF WITH MAPIQ|BET WITH DAGESH|GIMEL WITH DAGESH",
     "DALET WITH DAGESH|HE WITH MAPIQ|VAV WITH DAGESH|ZAYIN WITH DAGESH"]⟩,
   ⟨0xfb38, "HEBREW LETTER ", ["TET WITH DAGESH|YOD WITH DAGESH|FINAL KAF WITH DAGESH",
     "KAF WITH DAGESH|LAMED WITH DAGESH"]⟩,
   ⟨0xfb3e, "HEBREW LETTER MEM WITH DAGESH", [""]⟩,
   ⟨0xfb40, "HEBREW LETTER ", ["NUN WITH DAGESH|SAMEKH WITH DAGESH"]⟩,
   ⟨0xfb43, "HEBREW LETTER ", ["FINAL PE WITH DAGESH|PE WITH DAGESH"]⟩,
   ⟨0xfb46, "HEBREW LETTER ", ["TSADI WITH DAGESH|QOF WITH DAGESH|RESH WITH DAGESH",
     "SHIN WITH DAGESH|TAV WITH DAGESH|VAV WITH HOLAM|BET WITH RAFE|KAF WITH RAFE|PE WITH RAFE"]⟩,
   ⟨0xfb4f, "HEBREW LIGATURE ALEF LAMED", [""]⟩,
   ⟨0xfb50, "ARABIC LETTER ", ["ALEF WASLA ISOLATED FORM|ALEF WASLA FINAL FORM",
     "BEEH ISOLATED FORM|BEEH FINAL FORM|BEEH INITIAL FORM|BEEH MEDIAL FORM|PEH ISOLATED FORM",
     "PEH FINAL FORM|PEH INITIAL FORM|PEH MEDIAL FORM|BEHEH ISOLATED FORM|BEHEH FINAL FORM",
     "BEHEH INITIAL FORM|BEHEH MEDIAL FORM|TTEHEH ISOLATED FORM|TTEHEH FINAL FORM",
     "TTEHEH INITIAL FORM|TTEHEH MEDIAL FORM|TEHEH ISOLATED FORM|TEHEH FINAL FORM",
     "TEHEH INITIAL FORM|TEHEH MEDIAL FORM|TTEH ISOLATED FORM|TTEH FINAL FORM|TTEH INITIAL FORM",
     "TTEH MEDIAL FORM|VEH ISOLATED FORM|VEH FINAL FORM|VEH INITIAL FORM|VEH MEDIAL FORM",
     "PEHEH ISOLATED FORM|PEHEH FINAL FORM|PEHEH INITIAL FORM|PEHEH MEDIAL FORM",
     "DYEH ISOLATED FORM|DYEH FINAL FORM|DYEH INITIAL FORM|DYEH MEDIAL FORM|NYEH ISOLATED FORM",
     "NYEH FINAL FORM|NYEH INITIAL FORM|NYEH MEDIAL FORM|TCHEH ISOLATED FORM|TCHEH FINAL FORM",
     "TCHEH INITIAL FORM|TCHEH MEDIAL FORM|TCHEHEH ISOLATED FORM|TCHEHEH FINAL FORM",
     "TCHEHEH INITIAL FORM|TCHEHEH MEDIAL FORM|DDAHAL ISOLATED FORM|DDAHAL FINAL FORM",
     "DAHAL ISOLATED FORM|DAHAL FINAL FORM|DUL ISOLATED FORM|DUL FINAL FORM|DDAL ISOLATED FORM",
     "DDAL FINAL FORM|JEH ISOLATED FORM|JEH FINAL FORM|RREH ISOLATED FORM|RREH FINAL FORM",
     "KEHEH ISOLATED FORM|KEHEH FINAL FORM|KEHEH INITIAL FORM|KEHEH MEDIAL FORM",
     "GAF ISOLATED FORM|GAF FINAL FORM|GAF INITIAL FORM|GAF MEDIAL FORM|GUEH ISOLATED FORM",
     "GUEH FINAL FORM|GUEH INITIAL FORM|GUEH MEDIAL FORM|NGOEH ISOLATED FORM|NGOEH FINAL FORM",
     "NGOEH INITIAL FORM|NGOEH MEDIAL FORM|NOON GHUNNA ISOLATED FORM|NOON GHUNNA FINAL FORM",
     "RNOON ISOLATED FORM|RNOON FINAL FORM|RNOON INITIAL FORM|RNOON MEDIAL FORM",
     "HEH WITH YEH ABOVE ISOLATED FORM|HEH WITH YEH ABOVE FINAL FORM|HEH GOAL ISOLATED FORM",
     "HEH GOAL FINAL FORM|HEH GOAL INITIAL FORM|HEH GOAL MEDIAL FORM"]⟩,
   ⟨0xfbaa, "ARABIC LETTER HEH DOACHASHMEE ", ["ISOLATED FORM|FINAL FORM|INITIAL FORM",
     "MEDIAL FORM"]⟩,
   ⟨0xfbae, "ARABIC LETTER YEH BARREE ", ["ISOLATED FORM|FINAL FORM",
     "WITH HAMZA ABOVE ISOLATED FORM|WITH HAMZA ABOVE FINAL FORM"]⟩,
   ⟨0xfbb2, "ARABIC SYMBOL ", ["DOT ABOVE|DOT BELOW|TWO DOTS ABOVE|TWO DOTS BELOW",
     "THREE DOTS ABOVE|THREE DOTS BELOW|THREE DOTS POINTING DOWNWARDS ABOVE",
     "THREE DOTS POINTING DOWNWARDS BELOW|FOUR DOTS ABOVE|FOUR DOTS BELOW",
     "DOUBLE VERTICAL BAR BELOW|TWO DOTS VERTICALLY ABOVE|TWO DOTS VERTICALLY BELOW|RING",
     "SMALL TAH ABOVE|SMALL TAH BELOW|WASLA ABOVE"]⟩,
   ⟨0xfbd3, "ARABIC LETTER ", ["NG ISOLATED FORM|NG FINAL FORM|NG INITIAL FORM|NG MEDIAL FORM",
     "U ISOLATED FORM|U FINAL FORM|OE ISOLATED FORM|OE FINAL FORM|YU ISOLATED FORM|YU FINAL FORM",
     "U WITH HAMZA ABOVE ISOLATED FORM|VE ISOLATED FORM|VE FINAL FORM|KIRGHIZ OE ISOLATED FORM",
     "KIRGHIZ OE FINAL FORM|KIRGHIZ YU ISOLATED FORM|KIRGHIZ YU FINAL FORM|E ISOLATED FORM",
     "E FINAL FORM|E INITIAL FORM|E MEDIAL FORM"]⟩,
   ⟨0xfbe8, "ARABIC LETTER UIGHUR KAZAKH KIRGHIZ ALEF MAKSURA ", ["INITIAL FORM|MEDIAL FORM"]⟩,
   ⟨0xfbea, "ARABIC LIGATURE YEH WITH HAMZA ABOVE WITH ", ["ALEF ISOLATED FORM|ALEF FINAL FORM",
     "AE ISOLATED FORM|AE FINAL FORM|WAW ISOLATED FORM|WAW FINAL FORM|U ISOLATED FORM",
     "U FINAL FORM|OE ISOLATED FORM|OE FINAL FORM|YU ISOLATED FORM|YU FINAL FORM|E ISOLATED FORM",
     "E FINAL FORM|E INITIAL FORM"]⟩,
   ⟨0xfbf9, "ARABIC LIGATURE UIGHUR KIRGHIZ YEH WITH HAMZA ABOVE WITH ALEF MAKSURA ", [
     "ISOLATED FORM|FINAL FORM|INITIAL FORM"]⟩,
   ⟨0xfbfc, "ARABIC LETTER FARSI YEH ", ["ISOLATED FORM|FINAL FORM|INITIAL FORM|MEDIAL FORM"]⟩,
   ⟨0xfc00, "ARABIC LIGATURE YEH WITH HAMZA ABOVE WITH ", ["JEEM ISOLATED FORM|HAH ISOLATED FORM",
     "MEEM ISOLATED FORM|ALEF MAKSURA ISOLATED FORM|YEH ISOLATED FORM"]⟩,
   ⟨0xfc05, "ARABIC LIGATURE BEH WITH ", ["JEEM ISOLATED FORM|HAH ISOLATED FORM",
     "KHAH ISOLATED FORM|MEEM ISOLATED FORM|ALEF MAKSURA ISOLATED FORM|YEH ISOLATED FORM"]⟩,
   ⟨0xfc0b, "ARABIC LIGATURE TEH WITH ", ["JEEM ISOLATED FORM|HAH ISOLATED FORM",
     "KHAH ISOLATED FORM|MEEM ISOLATED FORM|ALEF MAKSURA ISOLATED FORM|YEH ISOLATED FORM"]⟩,
   ⟨0xfc11, "ARABIC LIGATURE ", ["THEH WITH JEEM ISOLATED FORM|THEH WITH MEEM ISOLATED FORM",
     "THEH WITH ALEF MAKSURA ISOLATED FORM|THEH WITH YEH ISOLATED FORM",
     "JEEM WITH HAH ISOLATED FORM|JEEM WITH MEEM ISOLATED FORM|HAH WITH JEEM ISOLATED FORM",
     "HAH WITH MEEM ISOLATED FORM|KHAH WITH JEEM ISOLATED FORM|KHAH WITH HAH ISOLATED FORM",
     "KHAH WITH MEEM ISOLATED FORM|SEEN WITH JEEM ISOLATED FORM|SEEN WITH HAH ISOLATED FORM",
     "SEEN WITH KHAH ISOLATED FORM|SEEN WITH MEEM ISOLATED FORM|SAD WITH HAH ISOLATED FORM",
     "SAD WITH MEEM ISOLATED FORM|DAD WITH JEEM ISOLATED FORM|DAD WITH HAH ISOLATED FORM",
     "DAD WITH KHAH ISOLATED FORM|DAD WITH MEEM ISOLATED FORM|TAH WITH HAH ISOLATED FORM",
     "TAH WITH MEEM ISOLATED FORM|ZAH WITH MEEM ISOLATED FORM|AIN WITH JEEM ISOLATED FORM",
     "AIN WITH MEEM ISOLATED FORM|GHAIN WITH JEEM ISOLATED FORM|GHAIN WITH MEEM ISOLATED FORM"]⟩,
   ⟨0xfc2d, "ARABIC LIGATURE FEH WITH ", ["JEEM ISOLATED FORM|HAH ISOLATED FORM",
     "KHAH ISOLATED FORM|MEEM ISOLATED FORM|ALEF MAKSURA ISOLATED FORM|YEH ISOLATED FORM"]⟩,
   ⟨0xfc33, "ARABIC LIGATURE QAF WITH ", ["HAH ISOLATED FORM|MEEM ISOLATED FORM",
     "ALEF MAKSURA ISOLATED FORM|YEH ISOLATED FORM"]⟩,
   ⟨0xfc37, "ARABIC LIGATURE KAF WITH ", ["ALEF ISOLATED FORM|JEEM ISOLATED FORM",
     "HAH ISOLATED FORM|KHAH ISOLATED FORM|LAM ISOLATED FORM|MEEM ISOLATED FORM",
     "ALEF MAKSURA ISOLATED FORM|YEH ISOLATED FORM"]⟩,
   ⟨0xfc3f, "ARABIC LIGATURE LAM WITH ", ["JEEM ISOLATED FORM|HAH ISOLATED FORM",
     "KHAH ISOLATED FORM|MEEM ISOLATED FORM|ALEF MAKSURA ISOLATED FORM|YEH ISOLATED FORM"]⟩,
   ⟨0xfc45, "ARABIC LIGATURE MEEM WITH ", ["JEEM ISOLATED FORM|HAH ISOLATED FORM",
     "KHAH ISOLATED FORM|MEEM ISOLATED FORM|ALEF MAKSURA ISOLATED FORM|YEH ISOLATED FORM"]⟩,
   ⟨0xfc4b, "ARABIC LIGATURE NOON WITH ", ["JEEM ISOLATED FORM|HAH ISOLATED FORM",
     "KHAH ISOLATED FORM|MEEM ISOLATED FORM|ALEF MAKSURA ISOLATED FORM|YEH ISOLATED FORM"]⟩,
   ⟨0xfc51, "ARABIC LIGATURE HEH WITH ", ["JEEM ISOLATED FORM|MEEM ISOLATED FORM",
     "ALEF MAKSURA ISOLATED FORM|YEH ISOLATED FORM"]⟩,
   ⟨0xfc55, "ARABIC LIGATURE YEH WITH ", ["JEEM ISOLATED FORM|HAH ISOLATED FORM",
     "KHAH ISOLATED FORM|MEEM ISOLATED FORM|ALEF MAKSURA ISOLATED FORM|YEH ISOLATED FORM"]⟩,
   ⟨0xfc5b, "ARABIC LIGATURE ", ["THAL WITH SUPERSCRIPT ALEF ISOLATED FORM",
     "REH WITH SUPERSCRIPT ALEF ISOLATED FORM|ALEF MAKSURA WITH SUPERSCRIPT ALEF ISOLATED FORM"]⟩,
   ⟨0xfc5e, "ARABIC LIGATURE SHADDA WITH ", ["DAMMATAN ISOLATED FORM|KASRATAN ISOLATED FORM",
     "FATHA ISOLATED FORM|DAMMA ISOLATED FORM|KASRA ISOLATED FORM",
     "SUPERSCRIPT ALEF ISOLATED FORM"]⟩,
   ⟨0xfc64, "ARABIC LIGATURE YEH WITH HAMZA ABOVE WITH ", ["REH FINAL FORM|ZAIN FINAL FORM",
     "MEEM FINAL FORM|NOON FINAL FORM|ALEF MAKSURA FINAL FORM|YEH FINAL FORM"]⟩,
   ⟨0xfc6a, "ARABIC LIGATURE BEH WITH ", ["REH FINAL FORM|ZAIN FINAL FORM|MEEM FINAL FORM",
     "NOON FINAL FORM|ALEF MAKSURA FINAL FORM|YEH FINAL FORM"]⟩,
   ⟨0xfc70, "ARABIC LIGATURE TEH WITH ", ["REH FINAL FORM|ZAIN FINAL FORM|MEEM FINAL FORM",
     "NOON FINAL FORM|ALEF MAKSURA FINAL FORM|YEH FINAL FORM"]⟩,
   ⟨0xfc76, "ARABIC LIGATURE THEH WITH ", ["REH FINAL FORM|ZAIN FINAL FORM|MEEM FINAL FORM",
     "NOON FINAL FORM|ALEF MAKSURA FINAL FORM|YEH FINAL FORM"]⟩,
   ⟨0xfc7c, "ARABIC LIGATURE ", ["FEH WITH ALEF MAKSURA FINAL FORM|FEH WITH YEH FINAL FORM",
     "QAF WITH ALEF MAKSURA FINAL FORM|QAF WITH YEH FINAL FORM|KAF WITH ALEF FINAL FORM",
     "KAF WITH LAM FINAL FORM|KAF WITH MEEM FINAL FORM|KAF WITH ALEF MAKSURA FINAL FORM",
     "KAF WITH YEH FINAL FORM|LAM WITH MEEM FINAL FORM|LAM WITH ALEF MAKSURA FINAL FORM",
     "LAM WITH YEH FINAL FORM|MEEM WITH ALEF FINAL FORM|MEEM WITH MEEM FINAL FORM",
     "NOON WITH REH FINAL FORM|NOON WITH ZAIN FINAL FORM|NOON WITH MEEM FINAL FORM",
     "NOON WITH NOON FINAL FORM|NOON WITH ALEF MAKSURA FINAL FORM|NOON WITH YEH FINAL FORM",
     "ALEF MAKSURA WITH SUPERSCRIPT ALEF FINAL FORM"]⟩,
   ⟨0xfc91, "ARABIC LIGATURE YEH WITH ", ["REH FINAL FORM|ZAIN FINAL FORM|MEEM FINAL FORM",
     "NOON FINAL FORM|ALEF MAKSURA FINAL FORM|YEH FINAL FORM"]⟩,
   ⟨0xfc97, "ARABIC LIGATURE YEH WITH HAMZA ABOVE WITH ", ["JEEM INITIAL FORM|HAH INITIAL FORM",
     "KHAH INITIAL FORM|MEEM INITIAL FORM|HEH INITIAL FORM"]⟩,
   ⟨0xfc9c, "ARABIC LIGATURE BEH WITH ", ["JEEM INITIAL FORM|HAH INITIAL FORM|KHAH INITIAL FORM",
     "MEEM INITIAL FORM|HEH INITIAL FORM"]⟩,
   ⟨0xfca1, "ARABIC LIGATURE TEH WITH ", ["JEEM INITIAL FORM|HAH INITIAL FORM|KHAH INITIAL FORM",
     "MEEM INITIAL FORM|HEH INITIAL FORM"]⟩,
   ⟨0xfca6, "ARABIC LIGATURE ", ["THEH WITH MEEM INITIAL FORM|JEEM WITH HAH INITIAL FORM",
     "JEEM WITH MEEM INITIAL FORM|HAH WITH JEEM INITIAL FORM|HAH WITH MEEM INITIAL FORM",
     "KHAH WITH JEEM INITIAL FORM|KHAH WITH MEEM INITIAL FORM|SEEN WITH JEEM INITIAL FORM",
     "SEEN WITH HAH INITIAL FORM|SEEN WITH KHAH INITIAL FORM|SEEN WITH MEEM INITIAL FORM",
     "SAD WITH HAH INITIAL FORM|SAD WITH KHAH INITIAL FORM|SAD WITH MEEM INITIAL FORM",
     "DAD WITH JEEM INITIAL FORM|DAD WITH HAH INITIAL FORM|DAD WITH KHAH INITIAL FORM",
     "DAD WITH MEEM INITIAL FORM|TAH WITH HAH INITIAL FORM|ZAH WITH MEEM INITIAL FORM",
     "AIN WITH JEEM INITIAL FORM|AIN WITH MEEM INITIAL FORM|GHAIN WITH JEEM INITIAL FORM",
     "GHAIN WITH MEEM INITIAL FORM|FEH WITH JEEM INITIAL FORM|FEH WITH HAH INITIAL FORM",
     "FEH WITH KHAH INITIAL FORM|FEH WITH MEEM INITIAL FORM|QAF WITH HAH INITIAL FORM",
     "QAF WITH MEEM INITIAL FORM|KAF WITH JEEM INITIAL FORM|KAF WITH HAH INITIAL FORM",
     "KAF WITH KHAH INITIAL FORM|KAF WITH LAM INITIAL FORM|KAF WITH MEEM INITIAL FORM",
     "LAM WITH JEEM INITIAL FORM|LAM WITH HAH INITIAL FORM|LAM WITH KHAH INITIAL FORM",
     "LAM WITH MEEM INITIAL FORM|LAM WITH HEH INITIAL FORM|MEEM WITH JEEM INITIAL FORM",
     "MEEM WITH HAH INITIAL FORM|MEEM WITH KHAH INITIAL FORM|MEEM WITH MEEM INITIAL FORM",
     "NOON WITH JEEM INITIAL FORM|NOON WITH HAH INITIAL FORM|NOON WITH KHAH INITIAL FORM",
     "NOON WITH MEEM INITIAL FORM|NOON WITH HEH INITIAL FORM|HEH WITH JEEM INITIAL FORM",
     "HEH WITH MEEM INITIAL FORM|HEH WITH SUPERSCRIPT ALEF INITIAL FORM",
     "YEH WITH JEEM INITIAL FORM|YEH WITH HAH INITIAL FORM|YEH WITH KHAH INITIAL FORM",
     "YEH WITH MEEM INITIAL FORM|YEH WITH HEH INITIAL FORM",
     "YEH WITH HAMZA ABOVE WITH MEEM MEDIAL FORM|YEH WITH HAMZA ABOVE WITH HEH MEDIAL FORM",
     "BEH WITH MEEM MEDIAL FORM|BEH WITH HEH MEDIAL FORM|TEH WITH MEEM MEDIAL FORM",
     "TEH WITH HEH MEDIAL FORM|THEH WITH MEEM MEDIAL FORM|THEH WITH HEH MEDIAL FORM",
     "SEEN WITH MEEM MEDIAL FORM|SEEN WITH HEH MEDIAL FORM|SHEEN WITH MEEM MEDIAL FORM",
     "SHEEN WITH HEH MEDIAL FORM|KAF WITH LAM MEDIAL FORM|KAF WITH MEEM MEDIAL FORM",
     "LAM WITH MEEM MEDIAL FORM|NOON WITH MEEM MEDIAL FORM|NOON WITH HEH MEDIAL FORM",
     "YEH WITH MEEM MEDIAL FORM|YEH WITH HEH MEDIAL FORM|SHADDA WITH FATHA MEDIAL FORM",
     "SHADDA WITH DAMMA MEDIAL FORM|SHADDA WITH KASRA MEDIAL FORM",
     "TAH WITH ALEF MAKSURA ISOLATED FORM|TAH WITH YEH ISOLATED FORM",
     "AIN WITH ALEF MAKSURA ISOLATED FORM|AIN WITH YEH ISOLATED FORM",
     "GHAIN WITH ALEF MAKSURA ISOLATED FORM|GHAIN WITH YEH ISOLATED FORM",
     "SEEN WITH ALEF MAKSURA ISOLATED FORM|SEEN WITH YEH ISOLATED FORM",
     "SHEEN WITH ALEF MAKSURA ISOLATED FORM|SHEEN WITH YEH ISOLATED FORM",
     "HAH WITH ALEF MAKSURA ISOLATED FORM|HAH WITH YEH ISOLATED FORM",
     "JEEM WITH ALEF MAKSURA ISOLATED FORM|JEEM WITH YEH ISOLATED FORM",
     "KHAH WITH ALEF MAKSURA ISOLATED FORM|KHAH WITH YEH ISOLATED FORM",
     "SAD WITH ALEF MAKSURA ISOLATED FORM|SAD WITH YEH ISOLATED FORM",
     "DAD WITH ALEF MAKSURA ISOLATED FORM|DAD WITH YEH ISOLATED FORM",
     "SHEEN WITH JEEM ISOLATED FORM|SHEEN WITH HAH ISOLATED FORM|SHEEN WITH KHAH ISOLATED FORM",
     "SHEEN WITH MEEM ISOLATED FORM|SHEEN WITH REH ISOLATED FORM|SEEN WITH REH ISOLATED FORM",
     "SAD WITH REH ISOLATED FORM|DAD WITH REH ISOLATED FORM|TAH WITH ALEF MAKSURA FINAL FORM",
     "TAH WITH YEH FINAL FORM|AIN WITH ALEF MAKSURA FINAL FORM|AIN WITH YEH FINAL FORM",
     "GHAIN WITH ALEF MAKSURA FINAL FORM|GHAIN WITH YEH FINAL FORM",
     "SEEN WITH ALEF MAKSURA FINAL FORM|SEEN WITH YEH FINAL FORM",
     "SHEEN WITH ALEF MAKSURA FINAL FORM|SHEEN WITH YEH FINAL FORM",
     "HAH WITH ALEF MAKSURA FINAL FORM|HAH WITH YEH FINAL FORM|JEEM WITH ALEF MAKSURA FINAL FORM",
     "JEEM WITH YEH FINAL FORM|KHAH WITH ALEF MAKSURA FINAL FORM|KHAH WITH YEH FINAL FORM",
     "SAD WITH ALEF MAKSURA FINAL FORM|SAD WITH YEH FINAL FORM|DAD WITH ALEF MAKSURA FINAL FORM",
     "DAD WITH YEH FINAL FORM|SHEEN WITH JEEM FINAL FORM|SHEEN WITH HAH FINAL FORM",
     "SHEEN WITH KHAH FINAL FORM|SHEEN WITH MEEM FINAL FORM|SHEEN WITH REH FINAL FORM",
     "SEEN WITH REH FINAL FORM|SAD WITH REH FINAL FORM|DAD WITH REH FINAL FORM",
     "SHEEN WITH JEEM INITIAL FORM|SHEEN WITH HAH INITIAL FORM|SHEEN WITH KHAH INITIAL FORM",
     "SHEEN WITH MEEM INITIAL FORM|SEEN WITH HEH INITIAL FORM|SHEEN WITH HEH INITIAL FORM",
     "TAH WITH MEEM INITIAL FORM|SEEN WITH JEEM MEDIAL FORM|SEEN WITH HAH MEDIAL FORM",
     "SEEN WITH KHAH MEDIAL FORM|SHEEN WITH JEEM MEDIAL FORM|SHEEN WITH HAH MEDIAL FORM",
     "SHEEN WITH KHAH MEDIAL FORM|TAH WITH MEEM MEDIAL FORM|ZAH WITH MEEM MEDIAL FORM",
     "ALEF WITH FATHATAN FINAL FORM|ALEF WITH FATHATAN ISOLATED FORM"]⟩,
   ⟨0xfd3e, "", ["ORNATE LEFT PARENTHESIS|ORNATE RIGHT PARENTHESIS",
     "ARABIC LIGATURE RAHIMAHU ALLAAH"]⟩,
   ⟨0xfd41, "ARABIC LIGATURE RADI ALLAAHU ANH", ["|AA|UM|UMAA|UNNA"]⟩,
   ⟨0xfd46, "ARABIC LIGATURE ", ["SALLALLAAHU ALAYHI WA-AALIH|ALAYHI AS-SALAAM|ALAYHIM AS-SALAAM",
     "ALAYHIMAA AS-SALAAM|ALAYHI AS-SALAATU WAS-SALAAM|QUDDISA SIRRAH",
     "SALLALLAHU ALAYHI WAAALIHEE WA-SALLAM|ALAYHAA AS-SALAAM|TABAARAKA WA-TAAALAA",
     "RAHIMAHUM ALLAAH"]⟩,
   ⟨0xfd50, "ARABIC LIGATURE TEH WITH ", ["JEEM WITH MEEM INITIAL FORM|HAH WITH JEEM FINAL FORM",
     "HAH WITH JEEM INITIAL FORM|HAH WITH MEEM INITIAL FORM|KHAH WITH MEEM INITIAL FORM",
     "MEEM WITH JEEM INITIAL FORM|MEEM WITH HAH INITIAL FORM|MEEM WITH KHAH INITIAL FORM"]⟩,
   ⟨0xfd58, "ARABIC LIGATURE JEEM WITH MEEM WITH HAH ", ["FINAL FORM|INITIAL FORM"]⟩,
   ⟨0xfd5a, "ARABIC LIGATURE HAH WITH MEEM WITH ", ["YEH FINAL FORM|ALEF MAKSURA FINAL FORM"]⟩,
   ⟨0xfd5c, "ARABIC LIGATURE SEEN WITH ", ["HAH WITH JEEM INITIAL FORM",
     "JEEM WITH HAH INITIAL FORM|JEEM WITH ALEF MAKSURA FINAL FORM|MEEM WITH HAH FINAL FORM",
     "MEEM WITH HAH INITIAL FORM|MEEM WITH JEEM INITIAL FORM|MEEM WITH MEEM FINAL FORM",
     "MEEM WITH MEEM INITIAL FORM"]⟩,
   ⟨0xfd64, "ARABIC LIGATURE SAD WITH ", ["HAH WITH HAH FINAL FORM|HAH WITH HAH INITIAL FORM",
     "MEEM WITH MEEM FINAL FORM"]⟩,
   ⟨0xfd67, "ARABIC LIGATURE SHEEN WITH ", ["HAH WITH MEEM FINAL FORM|HAH WITH MEEM INITIAL FORM",
     "JEEM WITH YEH FINAL FORM|MEEM WITH KHAH FINAL FORM|MEEM WITH KHAH INITIAL FORM",
     "MEEM WITH MEEM FINAL FORM|MEEM WITH MEEM INITIAL FORM"]⟩,
   ⟨0xfd6e, "ARABIC LIGATURE DAD WITH ", ["HAH WITH ALEF MAKSURA FINAL FORM",
     "KHAH WITH MEEM FINAL FORM|KHAH WITH MEEM INITIAL FORM"]⟩,
   ⟨0xfd71, "ARABIC LIGATURE TAH WITH MEEM WITH ", ["HAH FINAL FORM|HAH INITIAL FORM",
     "MEEM INITIAL FORM|YEH FINAL FORM"]⟩,
   ⟨0xfd75, "ARABIC LIGATURE AIN WITH ", ["JEEM WITH MEEM FINAL FORM|MEEM WITH MEEM FINAL FORM",
     "MEEM WITH MEEM INITIAL FORM|MEEM WITH ALEF MAKSURA FINAL FORM"]⟩,
   ⟨0xfd79, "ARABIC LIGATURE GHAIN WITH MEEM WITH ", ["MEEM FINAL FORM|YEH FINAL FORM",
     "ALEF MAKSURA FINAL FORM"]⟩,
   ⟨0xfd7c, "ARABIC LIGATURE FEH WITH KHAH WITH MEEM ", ["FINAL FORM|INITIAL FORM"]⟩,
   ⟨0xfd7e, "ARABIC LIGATURE QAF WITH MEEM WITH ", ["HAH FINAL FORM|MEEM FINAL FORM"]⟩,
   ⟨0xfd80, "ARABIC LIGATURE LAM WITH ", ["HAH WITH MEEM FINAL FORM|HAH WITH YEH FINAL FORM",
     "HAH WITH ALEF MAKSURA FINAL FORM|JEEM WITH JEEM INITIAL FORM|JEEM WITH JEEM FINAL FORM",
     "KHAH WITH MEEM FINAL FORM|KHAH WITH MEEM INITIAL FORM|MEEM WITH HAH FINAL FORM",
     "MEEM WITH HAH INITIAL FORM"]⟩,
   ⟨0xfd89, "ARABIC LIGATURE MEEM WITH ", ["HAH WITH JEEM INITIAL FORM",
     "HAH WITH MEEM INITIAL FORM|HAH WITH YEH FINAL FORM|JEEM WITH HAH INITIAL FORM",
     "JEEM WITH MEEM INITIAL FORM|KHAH WITH JEEM INITIAL FORM|KHAH WITH MEEM INITIAL FORM"]⟩,
   ⟨0xfd92, "ARABIC LIGATURE ", ["MEEM WITH JEEM WITH KHAH INITIAL FORM",
     "HEH WITH MEEM WITH JEEM INITIAL FORM|HEH WITH MEEM WITH MEEM INITIAL FORM",
     "NOON WITH HAH WITH MEEM INITIAL FORM|NOON WITH HAH WITH ALEF MAKSURA FINAL FORM",
     "NOON WITH JEEM WITH MEEM FINAL FORM|NOON WITH JEEM WITH MEEM INITIAL FORM",
     "NOON WITH JEEM WITH ALEF MAKSURA FINAL FORM|NOON WITH MEEM WITH YEH FINAL FORM",
     "NOON WITH MEEM WITH ALEF MAKSURA FINAL FORM|YEH WITH MEEM WITH MEEM FINAL FORM",
     "YEH WITH MEEM WITH MEEM INITIAL FORM|BEH WITH KHAH WITH YEH FINAL FORM",
     "TEH WITH JEEM WITH YEH FINAL FORM|TEH WITH JEEM WITH ALEF MAKSURA FINAL FORM",
     "TEH WITH KHAH WITH YEH FINAL FORM|TEH WITH KHAH WITH ALEF MAKSURA FINAL FORM",
     "TEH WITH MEEM WITH YEH FINAL FORM|TEH WITH MEEM WITH ALEF MAKSURA FINAL FORM",
     "JEEM WITH MEEM WITH YEH FINAL FORM|JEEM WITH HAH WITH ALEF MAKSURA FINAL FORM",
     "JEEM WITH MEEM WITH ALEF MAKSURA FINAL FORM|SEEN WITH KHAH WITH ALEF MAKSURA FINAL FORM",
     "SAD WITH HAH WITH YEH FINAL FORM|SHEEN WITH HAH WITH YEH FINAL FORM",
     "DAD WITH HAH WITH YEH FINAL FORM|LAM WITH JEEM WITH YEH FINAL FORM",
     "LAM WITH MEEM WITH YEH FINAL FORM|YEH WITH HAH WITH YEH FINAL FORM",
     "YEH WITH JEEM WITH YEH FINAL FORM|YEH WITH MEEM WITH YEH FINAL FORM",
     "MEEM WITH MEEM WITH YEH FINAL FORM|QAF WITH MEEM WITH YEH FINAL FORM",
     "NOON WITH HAH WITH YEH FINAL FORM|QAF WITH MEEM WITH HAH INITIAL FORM",
     "LAM WITH HAH WITH MEEM INITIAL FORM|AIN WITH MEEM WITH YEH FINAL FORM",
     "KAF WITH MEEM WITH YEH FINAL FORM|NOON WITH JEEM WITH HAH INITIAL FORM",
     "MEEM WITH KHAH WITH YEH FINAL FORM|LAM WITH JEEM WITH MEEM INITIAL FORM",
     "KAF WITH MEEM WITH MEEM FINAL FORM|LAM WITH JEEM WITH MEEM FINAL FORM",
     "NOON WITH JEEM WITH HAH FINAL FORM|JEEM WITH HAH WITH YEH FINAL FORM",
     "HAH WITH JEEM WITH YEH FINAL FORM|MEEM WITH JEEM WITH YEH FINAL FORM",
     "FEH WITH MEEM WITH YEH FINAL FORM|BEH WITH HAH WITH YEH FINAL FORM",
     "KAF WITH MEEM WITH MEEM INITIAL FORM|AIN WITH JEEM WITH MEEM INITIAL FORM",
     "SAD WITH MEEM WITH MEEM INITIAL FORM|SEEN WITH KHAH WITH YEH FINAL FORM",
     "NOON WITH JEEM WITH YEH FINAL FORM"]⟩,
   ⟨0xfdcf, "ARABIC LIGATURE SALAAMUHU ALAYNAA", [""]⟩,
   ⟨0xfdf0, "ARABIC LIGATURE ", ["SALLA USED AS KORANIC STOP SIGN ISOLATED FORM",
     "QALA USED AS KORANIC STOP SIGN ISOLATED FORM|ALLAH ISOLATED FORM|AKBAR ISOLATED FORM",
     "MOHAMMAD ISOLATED FORM|SALAM ISOLATED FORM|RASOUL ISOLATED FORM|ALAYHE ISOLATED FORM",
     "WASALLAM ISOLATED FORM|SALLA ISOLATED FORM|SALLALLAHOU ALAYHE WASALLAM|JALLAJALALOUHOU"]⟩,
   ⟨0xfdfc, "RIAL SIGN", [""]⟩,
   ⟨0xfdfd, "ARABIC LIGATURE ", ["BISMILLAH AR-RAHMAN AR-RAHEEM|SUBHAANAHU WA TAAALAA",
     "AZZA WA JALL"]⟩,
   ⟨0xfe00, "VARIATION SELECTOR-", ["1|2|3|4|5|6|7|8|9|10|11|12|13|14|15|16"]⟩,
   ⟨0xfe10, "PRESENTATION FORM FOR VERTICAL ", ["COMMA|IDEOGRAPHIC COMMA|IDEOGRAPHIC FULL STOP",
     "COLON|SEMICOLON|EXCLAMATION MARK|QUESTION MARK|LEFT WHITE LENTICULAR BRACKET",
     "RIGHT WHITE LENTICULAR BRAKCET|HORIZONTAL ELLIPSIS"]⟩,
   ⟨0xfe20, "COMBINING ", ["LIGATURE LEFT HALF|LIGATURE RIGHT HALF|DOUBLE TILDE LEFT HALF",
     "DOUBLE TILDE RIGHT HALF|MACRON LEFT HALF|MACRON RIGHT HALF|CONJOINING MACRON",
     "LIGATURE LEFT HALF BELOW|LIGATURE RIGHT HALF BELOW|TILDE LEFT HALF BELOW",
     "TILDE RIGHT HALF BELOW|MACRON LEFT HALF BELOW|MACRON RIGHT HALF BELOW",
     "CONJOINING MACRON BELOW|CYRILLIC TITLO LEFT HALF|CYRILLIC TITLO RIGHT HALF"]⟩,
   ⟨0xfe30, "PRESENTATION FORM FOR VERTICAL ", ["TWO DOT LEADER|EM DASH|EN DASH|LOW LINE",
     "WAVY LOW LINE|LEFT PARENTHESIS|RIGHT PARENTHESIS|LEFT CURLY BRACKET|RIGHT CURLY BRACKET",
     "LEFT TORTOISE SHELL BRACKET|RIGHT TORTOISE SHELL BRACKET|LEFT BLACK LENTICULAR BRACKET",
     "RIGHT BLACK LENTICULAR BRACKET|LEFT DOUBLE ANGLE BRACKET|RIGHT DOUBLE ANGLE BRACKET",
     "LEFT ANGLE BRACKET|RIGHT ANGLE BRACKET|LEFT CORNER BRACKET|RIGHT CORNER BRACKET",
     "LEFT WHITE CORNER BRACKET|RIGHT WHITE CORNER BRACKET"]⟩,
   ⟨0xfe45, "", ["SESAME DOT|WHITE SESAME DOT|PRESENTATION FORM FOR VERTICAL LEFT SQUARE BRACKET",
     "PRESENTATION FORM FOR VERTICAL RIGHT SQUARE BRACKET|DASHED OVERLINE|CENTRELINE OVERLINE",
     "WAVY OVERLINE|DOUBLE WAVY OVERLINE|DASHED LOW LINE|CENTRELINE LOW LINE|WAVY LOW LINE",
     "SMALL COMMA|SMALL IDEOGRAPHIC COMMA|SMALL FULL STOP"]⟩,
   ⟨0xfe54, "SMALL ", ["SEMICOLON|COLON|QUESTION MARK|EXCLAMATION MARK|EM DASH|LEFT PARENTHESIS",
     "RIGHT PARENTHESIS|LEFT CURLY BRACKET|RIGHT CURLY BRACKET|LEFT TORTOISE SHELL BRACKET",
     "RIGHT TORTOISE SHELL BRACKET|NUMBER SIGN|AMPERSAND|ASTERISK|PLUS SIGN|HYPHEN-MINUS",
     "LESS-THAN SIGN|GREATER-THAN SIGN|EQUALS SIGN"]⟩,
   ⟨0xfe68, "SMALL ", ["REVERSE SOLIDUS|DOLLAR SIGN|PERCENT SIGN|COMMERCIAL AT"]⟩,
   ⟨0xfe70, "ARABIC ", ["FATHATAN ISOLATED FORM|TATWEEL WITH FATHATAN ABOVE",
     "DAMMATAN ISOLATED FORM|TAIL FRAGMENT|KASRATAN ISOLATED FORM"]⟩,
   ⟨0xfe76, "ARABIC ", ["FATHA ISOLATED FORM|FATHA MEDIAL FORM|DAMMA ISOLATED FORM",
     "DAMMA MEDIAL FORM|KASRA ISOLATED FORM|KASRA MEDIAL FORM|SHADDA ISOLATED FORM",
     "SHADDA MEDIAL FORM|SUKUN ISOLATED FORM|SUKUN MEDIAL FORM|LETTER HAMZA ISOLATED FORM"]⟩,
   ⟨0xfe81, "ARABIC LETTER ALEF WITH ", ["MADDA ABOVE ISOLATED FORM|MADDA ABOVE FINAL FORM",
     "HAMZA ABOVE ISOLATED FORM|HAMZA ABOVE FINAL FORM"]⟩,
   ⟨0xfe85, "ARABIC LETTER WAW WITH HAMZA ABOVE ", ["ISOLATED FORM|FINAL FORM"]⟩,
   ⟨0xfe87, "ARABIC LETTER ALEF WITH HAMZA BELOW ", ["ISOLATED FORM|FINAL FORM"]⟩,
   ⟨0xfe89, "ARABIC LETTER YEH WITH HAMZA ABOVE ", ["ISOLATED FORM|FINAL FORM|INITIAL FORM",
     "MEDIAL FORM"]⟩,
   ⟨0xfe8d, "ARABIC LETTER ", ["ALEF ISOLATED FORM|ALEF FINAL FORM|BEH ISOLATED FORM",
     "BEH FINAL FORM|BEH INITIAL FORM|BEH MEDIAL FORM|TEH MARBUTA ISOLATED FORM",
     "TEH MARBUTA FINAL FORM|TEH ISOLATED FORM|TEH FINAL FORM|TEH INITIAL FORM|TEH MEDIAL FORM",
     "THEH ISOLATED FORM|THEH FINAL FORM|THEH INITIAL FORM|THEH MEDIAL FORM|JEEM ISOLATED FORM",
     "JEEM FINAL FORM|JEEM INITIAL FORM|JEEM MEDIAL FORM|HAH ISOLATED FORM|HAH FINAL FORM",
     "HAH INITIAL FORM|HAH MEDIAL FORM|KHAH ISOLATED FORM|KHAH FINAL FORM|KHAH INITIAL FORM",
     "KHAH MEDIAL FORM|DAL ISOLATED FORM|DAL FINAL FORM|THAL ISOLATED FORM|THAL FINAL FORM",
     "REH ISOLATED FORM|REH FINAL FORM|ZAIN ISOLATED FORM|ZAIN FINAL FORM|SEEN ISOLATED FORM",
     "SEEN FINAL FORM|SEEN INITIAL FORM|SEEN MEDIAL FORM|SHEEN ISOLATED FORM|SHEEN FINAL FORM",
     "SHEEN INITIAL FORM|SHEEN MEDIAL FORM|SAD ISOLATED FORM|SAD FINAL FORM|SAD INITIAL FORM",
     "SAD MEDIAL FORM|DAD ISOLATED FORM|DAD FINAL FORM|DAD INITIAL FORM|DAD MEDIAL FORM",
     "TAH ISOLATED FORM|TAH FINAL FORM|TAH INITIAL FORM|TAH MEDIAL FORM|ZAH ISOLATED FORM",
     "ZAH FINAL FORM|ZAH INITIAL FORM|ZAH MEDIAL FORM|AIN ISOLATED FORM|AIN FINAL FORM",
     "AIN INITIAL FORM|AIN MEDIAL FORM|GHAIN ISOLATED FORM|GHAIN FINAL FORM|GHAIN INITIAL FORM",
     "GHAIN MEDIAL FORM|FEH ISOLATED FORM|FEH FINAL FORM|FEH INITIAL FORM|FEH MEDIAL FORM",
     "QAF ISOLATED FORM|QAF FINAL FORM|QAF INITIAL FORM|QAF MEDIAL FORM|KAF ISOLATED FORM",
     "KAF FINAL FORM|KAF INITIAL FORM|KAF MEDIAL FORM|LAM ISOLATED FORM|LAM FINAL FORM",
     "LAM INITIAL FORM|LAM MEDIAL FORM|MEEM ISOLATED FORM|MEEM FINAL FORM|MEEM INITIAL FORM",
     "MEEM MEDIAL FORM|NOON ISOLATED FORM|NOON FINAL FORM|NOON INITIAL FORM|NOON MEDIAL FORM",
     "HEH ISOLATED FORM|HEH FINAL FORM|HEH INITIAL FORM|HEH MEDIAL FORM|WAW ISOLATED FORM",
     "WAW FINAL FORM|ALEF MAKSURA ISOLATED FORM|ALEF MAKSURA FINAL FORM|YEH ISOLATED FORM",
     "YEH FINAL FORM|YEH INITIAL FORM|YEH MEDIAL FORM"]⟩,
   ⟨0xfef5, "ARABIC LIGATURE LAM WITH ALEF ", ["WITH MADDA ABOVE ISOLATED FORM",
     "WITH MADDA ABOVE FINAL FORM|WITH HAMZA ABOVE ISOLATED FORM|WITH HAMZA ABOVE FINAL FORM",
     "WITH HAMZA BELOW ISOLATED FORM|WITH HAMZA BELOW FINAL FORM|ISOLATED FORM|FINAL FORM"]⟩,
   ⟨0xfeff, "ZERO WIDTH NO-BREAK SPACE", [""]⟩,
   ⟨0xff01, "FULLWIDTH ", ["EXCLAMATION MARK|QUOTATION MARK|NUMBER SIGN|DOLLAR SIGN|PERCENT SIGN",
     "AMPERSAND|APOSTROPHE|LEFT PARENTHESIS|RIGHT PARENTHESIS|ASTERISK|PLUS SIGN|COMMA",
     "HYPHEN-MINUS|FULL STOP|SOLIDUS"]⟩,
   ⟨0xff10, "FULLWIDTH DIGIT ", ["ZERO|ONE|TWO|THREE|FOUR|FIVE|SIX|SEVEN|EIGHT|NINE"]⟩,
   ⟨0xff1a, "FULLWIDTH ", ["COLON|SEMICOLON|LESS-THAN SIGN|EQUALS SIGN|GREATER-THAN SIGN",
     "QUESTION MARK|COMMERCIAL AT"]⟩,
   ⟨0xff21, "FULLWIDTH LATIN CAPITAL LETTER ", ["A|B|C|D|E|F|G|H|I|J|K|L|M|N|O|P|Q|R|S|T|U|V|W|X",
     "Y|Z"]⟩,
   ⟨0xff3b, "FULLWIDTH ", ["LEFT SQUARE BRACKET|REVERSE SOLIDUS|RIGHT SQUARE BRACKET",
     "CIRCUMFLEX ACCENT|LOW LINE|GRAVE ACCENT"]⟩,
   ⟨0xff41, "FULLWIDTH LATIN SMALL LETTER ", ["A|B|C|D|E|F|G|H|I|J|K|L|M|N|O|P|Q|R|S|T|U|V|W|X|Y",
     "Z"]⟩,
   ⟨0xff5b, "FULLWIDTH ", ["LEFT CURLY BRACKET|VERTICAL LINE|RIGHT CURLY BRACKET|TILDE",
     "LEFT WHITE PARENTHESIS|RIGHT WHITE PARENTHESIS"]⟩,
   ⟨0xff61, "HALFWIDTH ", ["IDEOGRAPHIC FULL STOP|LEFT CORNER BRACKET|RIGHT CORNER BRACKET",
     "IDEOGRAPHIC COMMA|KATAKANA MIDDLE DOT|KATAKANA LETTER WO"]⟩,
   ⟨0xff67, "HALFWIDTH KATAKANA LETTER SMALL ", ["A|I|U|E|O|YA|YU|YO|TU"]⟩,
   ⟨0xff70, "HALFWIDTH KATAKANA-HIRAGANA PROLONGED SOUND MARK", [""]⟩,
   ⟨0xff71, "HALFWIDTH KATAKANA LETTER ", ["A|I|U|E|O|KA|KI|KU|KE|KO|SA|SI|SU|SE|SO|TA|TI|TU|TE",
     "TO|NA|NI|NU|NE|NO|HA|HI|HU|HE|HO|MA|MI|MU|ME|MO|YA|YU|YO|RA|RI|RU|RE|RO|WA|N"]⟩,
   ⟨0xff9e, "HALFWIDTH ", ["KATAKANA VOICED SOUND MARK|KATAKANA SEMI-VOICED SOUND MARK",
     "HANGUL FILLER"]⟩,
   ⟨0xffa1, "HALFWIDTH HANGUL LETTER ", ["KIYEOK|SSANGKIYEOK|KIYEOK-SIOS|NIEUN|NIEUN-CIEUC",
     "NIEUN-HIEUH|TIKEUT|SSANGTIKEUT|RIEUL|RIEUL-KIYEOK|RIEUL-MIEUM|RIEUL-PIEUP|RIEUL-SIOS",
     "RIEUL-THIEUTH|RIEUL-PHIEUPH|RIEUL-HIEUH|MIEUM|PIEUP|SSANGPIEUP|PIEUP-SIOS|SIOS|SSANGSIOS",
     "IEUNG|CIEUC|SSANGCIEUC|CHIEUCH|KHIEUKH|THIEUTH|PHIEUPH|HIEUH"]⟩,
   ⟨0xffc2, "HALFWIDTH HANGUL LETTER ", ["A|AE|YA|YAE|EO|E"]⟩,
   ⟨0xffca, "HALFWIDTH HANGUL LETTER ", ["YEO|YE|O|WA|WAE|OE"]⟩,
   ⟨0xffd2, "HALFWIDTH HANGUL LETTER ", ["YO|U|WEO|WE|WI|YU"]⟩,
   ⟨0xffda, "HALFWIDTH HANGUL LETTER ", ["EU|YI|I"]⟩,
   ⟨0xffe0, "FULLWIDTH ", ["CENT SIGN|POUND SIGN|NOT SIGN|MACRON|BROKEN BAR|YEN SIGN|WON SIGN"]⟩,
   ⟨0xffe8, "HALFWIDTH ", ["FORMS LIGHT VERTICAL|LEFTWARDS ARROW|UPWARDS ARROW|RIGHTWARDS ARROW",
     "DOWNWARDS ARROW|BLACK SQUARE|WHITE CIRCLE"]⟩,
   ⟨0xfff9, "INTERLINEAR ANNOTATION ", ["ANCHOR|SEPARATOR|TERMINATOR"]⟩,
   ⟨0xfffc, "", ["OBJECT REPLACEMENT CHARACTER|REPLACEMENT CHARACTER"]⟩,
   ⟨0x10000, "LINEAR B SYLLABLE B0", ["08 A|38 E|28 I|61 O|10 U|01 DA|45 DE|07 DI|14 DO|51 DU",
     "57 JA|46 JE"]⟩,
   ⟨0x1000d, "LINEAR B SYLLABLE B0", ["36 JO|65 JU|77 KA|44 KE|67 KI|70 KO|81 KU|80 MA|13 ME",
     "73 MI|15 MO|23 MU|06 NA|24 NE|30 NI|52 NO|55 NU|03 PA|72 PE|39 PI|11 PO|50 PU|16 QA|78 QE",
     "21 QI|32 QO"]⟩,
   ⟨0x10028, "LINEAR B SYLLABLE B0", ["60 RA|27 RE|53 RI|02 RO|26 RU|31 SA|09 SE|41 SI|12 SO",
     "58 SU|59 TA|04 TE|37 TI|05 TO|69 TU|54 WA|75 WE|40 WI|42 WO"]⟩,
   ⟨0x1003c, "LINEAR B SYLLABLE B0", ["17 ZA|74 ZE"]⟩,
   ⟨0x1003f, "LINEAR B SYLLABLE B0", ["20 ZO|25 A2|43 A3|85 AU|71 DWE|90 DWO|48 NWA|29 PU2",
     "62 PTE|76 RA2|33 RA3|68 RO2|66 TA2|87 TWE|91 TWO"]⟩,
   ⟨0x10050, "LINEAR B SYMBOL B0", ["18|19|22|34|47|49|56|63|64|79|82|83|86|89"]⟩,
   ⟨0x10080, "LINEAR B IDEOGRAM B1", ["00 MAN|02 WOMAN|04 DEER|05 EQUID|05F MARE|05M STALLION",
     "06F EWE|06M RAM|07F SHE-GOAT|07M HE-GOAT|08F SOW|08M BOAR|09F COW|09M BULL|20 WHEAT",
     "21 BARLEY|22 OLIVE|23 SPICE|25 CYPERUS"]⟩,
   ⟨0x10093, "LINEAR B ", ["MONOGRAM B127 KAPO|MONOGRAM B128 KANAKO|IDEOGRAM B130 OIL",
     "IDEOGRAM B131 WINE|IDEOGRAM B132|MONOGRAM B133 AREPA|MONOGRAM B135 MERI"]⟩,
   ⟨0x1009a, "LINEAR B IDEOGRAM B1", ["40 BRONZE|41 GOLD|42|45 WOOL|46|50|51 HORN|52|53|54"]⟩,
   ⟨0x100a4, "LINEAR B MONOGRAM B156 TURO2", [""]⟩,
   ⟨0x100a5, "LINEAR B IDEOGRAM B1", ["57|58|59 CLOTH|60|61|62 GARMENT|63 ARMOUR|64|65|66|67|68",
     "69|70|71|72|73 MONTH|74|76 TREE|77|78|79|80|81|82|83|84|85|89|90|91 HELMET"]⟩,
   ⟨0x100c4, "LINEAR B IDEOGRAM B2", ["20 FOOTSTOOL|25 BATHTUB|30 SPEAR|31 ARROW|32|33 SWORD|34",
     "36|40 WHEELED CHARIOT|41 CHARIOT|42 CHARIOT FRAME|43 WHEEL|45|46"]⟩,
   ⟨0x100d2, "LINEAR B MONOGRAM B247 DIPTE", [""]⟩,
   ⟨0x100d3, "LINEAR B IDEOGRAM B2", ["48|49|51|52|53|54 DART|55|56|57|58|59"]⟩,
   ⟨0x100de, "LINEAR B IDEOGRAM VESSEL B", ["155|200|201|202|203|204|205|206|207|208|209|210|211",
     "212|213|214|215|216|217|218|219|221|222|226|227|228|229|250|305"]⟩,
   ⟨0x10100, "AEGEAN ", ["WORD SEPARATOR LINE|WORD SEPARATOR DOT|CHECK MARK"]⟩,
   ⟨0x10107, "AEGEAN NUMBER ", ["ONE|TWO|THREE|FOUR|FIVE|SIX|SEVEN|EIGHT|NINE|TEN|TWENTY|THIRTY",
     "FORTY|FIFTY|SIXTY|SEVENTY|EIGHTY|NINETY|ONE HUNDRED|TWO HUNDRED|THREE HUNDRED|FOUR HUNDRED",
     "FIVE HUNDRED|SIX HUNDRED|SEVEN HUNDRED|EIGHT HUNDRED|NINE HUNDRED|ONE THOUSAND",
     "TWO THOUSAND|THREE THOUSAND|FOUR THOUSAND|FIVE THOUSAND|SIX THOUSAND|SEVEN THOUSAND",
     "EIGHT THOUSAND|NINE THOUSAND|TEN THOUSAND|TWENTY THOUSAND|THIRTY THOUSAND|FORTY THOUSAND",
     "FIFTY THOUSAND|SIXTY THOUSAND|SEVENTY THOUSAND|EIGHTY THOUSAND|NINETY THOUSAND"]⟩,
   ⟨0x10137, "AEGEAN WEIGHT ", ["BASE UNIT|FIRST SUBUNIT|SECOND SUBUNIT|THIRD SUBUNIT",
     "FOURTH SUBUNIT"]⟩,
   ⟨0x1013c, "AEGEAN ", ["DRY MEASURE FIRST SUBUNIT|LIQUID MEASURE FIRST SUBUNIT",
     "MEASURE SECOND SUBUNIT|MEASURE THIRD SUBUNIT"]⟩,
   ⟨0x10140, "GREEK ACROPHONIC ATTIC ", ["ONE QUARTER|ONE HALF|ONE DRACHMA|FIVE|FIFTY",
     "FIVE HUNDRED|FIVE THOUSAND|FIFTY THOUSAND|FIVE TALENTS|TEN TALENTS|FIFTY TALENTS",
     "ONE HUNDRED TALENTS|FIVE HUNDRED TALENTS|ONE THOUSAND TALENTS|FIVE THOUSAND TALENTS",
     "FIVE STATERS|TEN STATERS|FIFTY STATERS|ONE HUNDRED STATERS|FIVE HUNDRED STATERS",
     "ONE THOUSAND STATERS|TEN THOUSAND STATERS|FIFTY THOUSAND STATERS|TEN MNAS"]⟩,
   ⟨0x10158, "GREEK ACROPHONIC ", ["HERAEUM ONE PLETHRON|THESPIAN ONE|HERMIONIAN ONE",
     "EPIDAUREAN TWO|THESPIAN TWO|CYRENAIC TWO DRACHMAS|EPIDAUREAN TWO DRACHMAS|TROEZENIAN FIVE",
     "TROEZENIAN TEN|TROEZENIAN TEN ALTERNATE FORM|HERMIONIAN TEN|MESSENIAN TEN|THESPIAN TEN",
     "THESPIAN THIRTY|TROEZENIAN FIFTY|TROEZENIAN FIFTY ALTERNATE FORM|HERMIONIAN FIFTY",
     "THESPIAN FIFTY|THESPIAN ONE HUNDRED|THESPIAN THREE HUNDRED|EPIDAUREAN FIVE HUNDRED",
     "TROEZENIAN FIVE HUNDRED|THESPIAN FIVE HUNDRED|CARYSTIAN FIVE HUNDRED|NAXIAN FIVE HUNDRED",
     "THESPIAN ONE THOUSAND|THESPIAN FIVE THOUSAND|DELPHIC FIVE MNAS|STRATIAN FIFTY MNAS"]⟩,
   ⟨0x10175, "GREEK ", ["ONE HALF SIGN|ONE HALF SIGN ALTERNATE FORM|TWO THIRDS SIGN",
     "THREE QUARTERS SIGN|YEAR SIGN|TALENT SIGN|DRACHMA SIGN|OBOL SIGN|TWO OBOLS SIGN",
     "THREE OBOLS SIGN|FOUR OBOLS SIGN|FIVE OBOLS SIGN|METRETES SIGN|KYATHOS BASE SIGN",
     "LITRA SIGN|OUNKIA SIGN|XESTES SIGN|ARTABE SIGN|AROURA SIGN|GRAMMA SIGN|TRYBLION BASE SIGN",
     "ZERO SIGN|ONE QUARTER SIGN|SINUSOID SIGN|INDICTION SIGN"]⟩,
   ⟨0x1018e, "NOMISMA SIGN", [""]⟩,
   ⟨0x10190, "ROMAN ", ["SEXTANS SIGN|UNCIA SIGN|SEMUNCIA SIGN|SEXTULA SIGN|DIMIDIA SEXTULA SIGN",
     "SILIQUA SIGN|DENARIUS SIGN|QUINARIUS SIGN|SESTERTIUS SIGN|DUPONDIUS SIGN|AS SIGN",
     "CENTURIAL SIGN"]⟩,
   ⟨0x1019c, "ASCIA SYMBOL", [""]⟩,
   ⟨0x101a0, "GREEK SYMBOL TAU RHO", [""]⟩,
   ⟨0x101d0, "PHAISTOS DISC SIGN ", ["PEDESTRIAN|PLUMED HEAD|TATTOOED HEAD|CAPTIVE|CHILD|WOMAN",
     "HELMET|GAUNTLET|TIARA|ARROW|BOW|SHIELD|CLUB|MANACLES|MATTOCK|SAW|LID|BOOMERANG",
     "CARPENTRY PLANE|DOLIUM|COMB|SLING|COLUMN|BEEHIVE|SHIP|HORN|HIDE|BULLS LEG|CAT|RAM|EAGLE",
     "DOVE|TUNNY|BEE|PLANE TREE|VINE|PAPYRUS|ROSETTE|LILY|OX BACK|FLUTE|GRATER|STRAINER",
     "SMALL AXE|WAVY BAND|COMBINING OBLIQUE STROKE"]⟩,
   ⟨0x10280, "LYCIAN LETTER ", ["A|E|B|BH|G|D|I|W|Z|TH|J|K|Q|L|M|N|MM|NN|U|P|KK|R|S|T|TT|AN|EN|H",
     "X"]⟩,
   ⟨0x102a0, "CARIAN LETTER ", ["A|P2|D|L|UUU|R|LD|A2|Q|B|M|O|D2|T|SH|SH2|S|C-18|U|NN|X|N|TT2|P",
     "SS|I|E|UUUU|K|K2|ND|UU|G|G2|ST|ST2|NG|II|C-39|TT|UUU2|RR|MB|MB2|MB3|MB4|LD2|E2|UUU3"]⟩,
   ⟨0x102e0, "COPTIC EPACT THOUSANDS MARK", [""]⟩,
   ⟨0x102e1, "COPTIC EPACT DIGIT ", ["ONE|TWO|THREE|FOUR|FIVE|SIX|SEVEN|EIGHT|NINE"]⟩,
   ⟨0x102ea, "COPTIC EPACT NUMBER ", ["TEN|TWENTY|THIRTY|FORTY|FIFTY|SIXTY|SEVENTY|EIGHTY|NINETY",
     "ONE HUNDRED|TWO HUNDRED|THREE HUNDRED|FOUR HUNDRED|FIVE HUNDRED|SIX HUNDRED|SEVEN HUNDRED",
     "EIGHT HUNDRED|NINE HUNDRED"]⟩,
   ⟨0x10300, "OLD ITALIC LETTER ", ["A|BE|KE|DE|E|VE|ZE|HE|THE|I|KA|EL|EM|EN|ESH|O|PE|SHE|KU|ER",
     "ES|TE|U|EKS|PHE|KHE|EF|ERS|CHE|II|UU|ESS"]⟩,
   ⟨0x10320, "OLD ITALIC NUMERAL ", ["ONE|FIVE|TEN|FIFTY"]⟩,
   ⟨0x1032d, "OLD ITALIC LETTER ", ["YE|NORTHERN TSE|SOUTHERN TSE"]⟩,
   ⟨0x10330, "GOTHIC LETTER ", ["AHSA|BAIRKAN|GIBA|DAGS|AIHVUS|QAIRTHRA|IUJA|HAGL|THIUTH|EIS",
     "KUSMA|LAGUS|MANNA|NAUTHS|JER|URUS|PAIRTHRA|NINETY|RAIDA|SAUIL|TEIWS|WINJA|FAIHU|IGGWS",
     "HWAIR|OTHAL|NINE HUNDRED"]⟩,
   ⟨0x10350, "OLD PERMIC LETTER ", ["AN|BUR|GAI|DOI|E|ZHOI|DZHOI|ZATA|DZITA|I|KOKE|LEI|MENOE",
     "NENOE|VOOI|PEEI|REI|SII|TAI|U|CHERY|SHOOI|SHCHOOI|YRY|YERU|O|OO|EF|HA|TSIU|VER|YER|YERI",
     "YAT|IE|YU|YA|IA"]⟩,
   ⟨0x10376, "COMBINING OLD PERMIC LETTER ", ["AN|DOI|ZATA|NENOE|SII"]⟩,
   ⟨0x10380, "UGARITIC LETTER ", ["ALPA|BETA|GAMLA|KHA|DELTA|HO|WO|ZETA|HOTA|TET|YOD|KAF|SHIN",
     "LAMDA|MEM|DHAL|NUN|ZU|SAMKA|AIN|PU|SADE|QOPA|RASHA|THANNA|GHAIN|TO|I|U|SSU"]⟩,
   ⟨0x1039f, "UGARITIC WORD DIVIDER", [""]⟩,
   ⟨0x103a0, "OLD PERSIAN SIGN ", ["A|I|U|KA|KU|GA|GU|XA|CA|JA|JI|TA|TU|DA|DI|DU|THA|PA|BA|FA|NA",
     "NU|MA|MI|MU|YA|VA|VI|RA|RU|LA|SA|ZA|SHA|SSA|HA"]⟩,
   ⟨0x103c8, "OLD PERSIAN SIGN ", ["AURAMAZDAA|AURAMAZDAA-2|AURAMAZDAAHA|XSHAAYATHIYA|DAHYAAUSH",
     "DAHYAAUSH-2|BAGA|BUUMISH"]⟩,
   ⟨0x103d0, "OLD PERSIAN ", ["WORD DIVIDER|NUMBER ONE|NUMBER TWO|NUMBER TEN|NUMBER TWENTY",
     "NUMBER HUNDRED"]⟩,
   ⟨0x10400, "DESERET CAPITAL LETTER ", ["LONG I|LONG E|LONG A|LONG AH|LONG O|LONG OO|SHORT I",
     "SHORT E|SHORT A|SHORT AH|SHORT O|SHORT OO|AY|OW|WU|YEE|H|PEE|BEE|TEE|DEE|CHEE|JEE|KAY|GAY",
     "EF|VEE|ETH|THEE|ES|ZEE|ESH|ZHEE|ER|EL|EM|EN|ENG|OI|EW"]⟩,
   ⟨0x10428, "DESERET SMALL LETTER ", ["LONG I|LONG E|LONG A|LONG AH|LONG O|LONG OO|SHORT I",
     "SHORT E|SHORT A|SHORT AH|SHORT O|SHORT OO|AY|OW|WU|YEE|H|PEE|BEE|TEE|DEE|CHEE|JEE|KAY|GAY",
     "EF|VEE|ETH|THEE|ES|ZEE|ESH|ZHEE|ER|EL|EM|EN|ENG|OI|EW"]⟩,
   ⟨0x10450, "SHAVIAN LETTER ", ["PEEP|TOT|KICK|FEE|THIGH|SO|SURE|CHURCH|YEA|HUNG|BIB|DEAD|GAG",
     "VOW|THEY|ZOO|MEASURE|JUDGE|WOE|HA-HA|LOLL|MIME|IF|EGG|ASH|ADO|ON|WOOL|OUT|AH|ROAR|NUN|EAT",
     "AGE|ICE|UP|OAK|OOZE|OIL|AWE|ARE|OR|AIR|ERR|ARRAY|EAR|IAN|YEW"]⟩,
   ⟨0x10480, "OSMANYA LETTER ", ["ALEF|BA|TA|JA|XA|KHA|DEEL|RA|SA|SHIIN|DHA|CAYN|GA|FA|QAAF|KAAF",
     "LAAN|MIIN|NUUN|WAW|HA|YA|A|E|I|O|U|AA|EE|OO"]⟩,
   ⟨0x104a0, "OSMANYA DIGIT ", ["ZERO|ONE|TWO|THREE|FOUR|FIVE|SIX|SEVEN|EIGHT|NINE"]⟩,
   ⟨0x104b0, "OSAGE CAPITAL LETTER ", ["A|AI|AIN|AH|BRA|CHA|EHCHA|E|EIN|HA|HYA|I|KA|EHKA|KYA|LA",
     "MA|NA|O|OIN|PA|EHPA|SA|SHA|TA|EHTA|TSA|EHTSA|TSHA|DHA|U|WA|KHA|GHA|ZA|ZHA"]⟩,
   ⟨0x104d8, "OSAGE SMALL LETTER ", ["A|AI|AIN|AH|BRA|CHA|EHCHA|E|EIN|HA|HYA|I|KA|EHKA|KYA|LA|MA",
     "NA|O|OIN|PA|EHPA|SA|SHA|TA|EHTA|TSA|EHTSA|TSHA|DHA|U|WA|KHA|GHA|ZA|ZHA"]⟩,
   ⟨0x10500, "ELBASAN LETTER ", ["A|BE|CE|CHE|DE|NDE|DHE|EI|E|FE|GE|GJE|HE|I|JE|KE|LE|LLE|ME|NE",
     "NA|NJE|O|PE|QE|RE|RRE|SE|SHE|TE|THE|U|VE|XE|Y|ZE|ZHE|GHE|GHAMMA|KHE"]⟩,
   ⟨0x10530, "CAUCASIAN ALBANIAN LETTER ", ["ALT|BET|GIM|DAT|EB|ZARL|EYN|ZHIL|TAS|CHA|YOWD|ZHA",
     "IRB|SHA|LAN|INYA|XEYN|DYAN|CAR|JHOX|KAR|LYIT|HEYT|QAY|AOR|CHOY|CHI|CYAY|MAQ|QAR|NOWC|DZYAY",
     "SHAK|JAYN|ON|TYAY|FAM|DZAY|CHAT|PEN|GHEYS|RAT|SEYK|VEYZ|TIWR|SHOY|IWN|CYAW|CAYN|YAYD|PIWR",
     "KIW"]⟩,
   ⟨0x1056f, "CAUCASIAN ALBANIAN CITATION MARK", [""]⟩,
   ⟨0x10570, "VITHKUQI CAPITAL LETTER ", ["A|BBE|BE|CE|CHE|DE|DHE|EI|E|FE|GA"]⟩,
   ⟨0x1057c, "VITHKUQI CAPITAL LETTER ", ["HA|HHA|I|IJE|JE|KA|LA|LLA|ME|NE|NJE|O|PE|QA|RE"]⟩,
   ⟨0x1058c, "VITHKUQI CAPITAL LETTER ", ["SE|SHE|TE|THE|U|VE|XE"]⟩,
   ⟨0x10594, "VITHKUQI CAPITAL LETTER ", ["Y|ZE"]⟩,
   ⟨0x10597, "VITHKUQI SMALL LETTER ", ["A|BBE|BE|CE|CHE|DE|DHE|EI|E|FE|GA"]⟩,
   ⟨0x105a3, "VITHKUQI SMALL LETTER ", ["HA|HHA|I|IJE|JE|KA|LA|LLA|ME|NE|NJE|O|PE|QA|RE"]⟩,
   ⟨0x105b3, "VITHKUQI SMALL LETTER ", ["SE|SHE|TE|THE|U|VE|XE"]⟩,
   ⟨0x105bb, "VITHKUQI SMALL LETTER ", ["Y|ZE"]⟩,
   ⟨0x10600, "LINEAR A SIGN AB0", ["01|02|03|04|05|06|07|08|09|10|11|13|16|17|20|21|21F|21M|22",
     "22F|22M|23|23M|24|26|27|28"]⟩,
   ⟨0x1061b, "LINEAR A SIGN A028B", [""]⟩,
   ⟨0x1061c, "LINEAR A SIGN AB0", ["29|30|31|34|37|38|39|40|41|44|45|46|47|48|49|50|51|53|54|55",
     "56|57|58|59|60|61|65|66|67|69|70|73|74|76|77|78|79|80|81|82|85|86|87"]⟩,
   ⟨0x10647, "LINEAR A SIGN A", ["100-102|B118|B120|120B|B122|B123|B131A|B131B|131C|B164|B171",
     "B180|B188|B191"]⟩,
   ⟨0x10655, "LINEAR A SIGN A3", ["01|02|03|04|05|06|07|08|09A|09B|09C|10|11|12|13A|13B|13C|14",
     "15|16|17|18|19|20|21|22|23|24|25|26|27|28|29|30|31|32|33|34|35|36|37|38|39|40|41|42|43|44",
     "45|46|47|48|49|50|51|52|53|54|55|56|57|58|59|60|61|62|63|64|65|66|67|68|69|70|71"]⟩,
   ⟨0x106a0, "LINEAR A SIGN A4", ["00-VAS|01-VAS|02-VAS|03-VAS|04-VAS|05-VAS|06-VAS|07-VAS",
     "08-VAS|09-VAS|10-VAS|11-VAS|12-VAS|13-VAS|14-VAS|15-VAS|16-VAS|17-VAS|18-VAS"]⟩,
   ⟨0x106b3, "LINEAR A SIGN A5", ["01|02|03|04|05|06|08|09|10|11|12|13|15|16|20|21|23|24|25|26",
     "27|28|29|30|31|32|34|35|36|37|38|39|40|41|42|45|47|48|49|50|51|52|53|54|55|56|57|59|63|64",
     "65|66|68|69|70|71|72|73|74|75|76|77|78|79|80|81|82|83|84|85|86|87|88|89|91|92|94|95|96",
     "98"]⟩,
   ⟨0x10703, "LINEAR A SIGN A6", ["00|01|02|03|04|06|08|09|10|11|12|13|14|15|16|17|18|19|20|21",
     "22|23|24|26|27|28|29|34|37|38|40|42|43|44|45|46|48|49|51|52|53|54|55|56|57|58|59|60|61|62",
     "63|64"]⟩,
   ⟨0x10740, "LINEAR A SIGN A7", ["01 A|02 B|03 D|04 E|05 F|06 H|07 J|08 K|09 L|09-2 L2|09-3 L3",
     "09-4 L4|09-6 L6|10 W|11 X|12 Y|13 OMEGA|14 ABB|15 BB|17 DD|26 EYYY|32 JE"]⟩,
   ⟨0x10760, "LINEAR A SIGN A80", ["0|1|2|3|4|5|6|7"]⟩,
   ⟨0x10780, "MODIFIER LETTER S", ["MALL CAPITAL AA|UPERSCRIPT TRIANGULAR COLON",
     "UPERSCRIPT HALF TRIANGULAR COLON|MALL AE|MALL CAPITAL B|MALL B WITH HOOK"]⟩,
   ⟨0x10787, "MODIFIER LETTER SMALL ", ["DZ DIGRAPH|DZ DIGRAPH WITH RETROFLEX HOOK",
     "DZ DIGRAPH WITH CURL|DEZH DIGRAPH|D WITH TAIL|D WITH HOOK|D WITH HOOK AND TAIL|REVERSED E",
     "CLOSED REVERSED OPEN E|FENG DIGRAPH|RAMS HORN|CAPITAL G|G WITH HOOK|CAPITAL G WITH HOOK",
     "H WITH STROKE|CAPITAL H|HENG WITH HOOK|DOTLESS J WITH STROKE AND HOOK|LS DIGRAPH",
     "LZ DIGRAPH|L WITH BELT|CAPITAL L WITH BELT|L WITH RETROFLEX HOOK AND BELT|LEZH",
     "LEZH WITH RETROFLEX HOOK|TURNED Y|TURNED Y WITH BELT|O WITH STROKE|CAPITAL OE|CLOSED OMEGA",
     "Q|TURNED R WITH LONG LEG|TURNED R WITH LONG LEG AND RETROFLEX HOOK|R WITH TAIL",
     "R WITH FISHHOOK|CAPITAL R|TC DIGRAPH WITH CURL|TS DIGRAPH|TS DIGRAPH WITH RETROFLEX HOOK",
     "TESH DIGRAPH|T WITH RETROFLEX HOOK|V WITH RIGHT HOOK"]⟩,
   ⟨0x107b2, "MODIFIER LETTER ", ["SMALL CAPITAL Y|GLOTTAL STOP WITH STROKE",
     "REVERSED GLOTTAL STOP WITH STROKE|BILABIAL CLICK|DENTAL CLICK|LATERAL CLICK|ALVEOLAR CLICK",
     "RETROFLEX CLICK WITH RETROFLEX HOOK|SMALL S WITH CURL"]⟩,
   ⟨0x10800, "CYPRIOT SYLLABLE ", ["A|E|I|O|U|JA"]⟩,
   ⟨0x10808, "CYPRIOT SYLLABLE JO", [""]⟩,
   ⟨0x1080a, "CYPRIOT SYLLABLE ", ["KA|KE|KI|KO|KU|LA|LE|LI|LO|LU|MA|ME|MI|MO|MU|NA|NE|NI|NO|NU",
     "PA|PE|PI|PO|PU|RA|RE|RI|RO|RU|SA|SE|SI|SO|SU|TA|TE|TI|TO|TU|WA|WE|WI|WO"]⟩,
   ⟨0x10837, "CYPRIOT SYLLABLE X", ["A|E"]⟩,
   ⟨0x1083c, "CYPRIOT SYLLABLE ZA", [""]⟩,
   ⟨0x1083f, "CYPRIOT SYLLABLE ZO", [""]⟩,
   ⟨0x10840, "IMPERIAL ARAMAIC LETTER ", ["ALEPH|BETH|GIMEL|DALETH|HE|WAW|ZAYIN|HETH|TETH|YODH",
     "KAPH|LAMEDH|MEM|NUN|SAMEKH|AYIN|PE|SADHE|QOPH|RESH|SHIN|TAW"]⟩,
   ⟨0x10857, "IMPERIAL ARAMAIC SECTION SIGN", [""]⟩,
   ⟨0x10858, "IMPERIAL ARAMAIC NUMBER ", ["ONE|TWO|THREE|TEN|TWENTY|ONE HUNDRED|ONE THOUSAND",
     "TEN THOUSAND"]⟩,
   ⟨0x10860, "PALMYRENE LETTER ", ["ALEPH|BETH|GIMEL|DALETH|HE|WAW|ZAYIN|HETH|TETH|YODH|KAPH",
     "LAMEDH|MEM|FINAL NUN|NUN|SAMEKH|AYIN|PE|SADHE|QOPH|RESH|SHIN|TAW"]⟩,
   ⟨0x10877, "PALMYRENE ", ["LEFT-POINTING FLEURON|RIGHT-POINTING FLEURON"]⟩,
   ⟨0x10879, "PALMYRENE NUMBER ", ["ONE|TWO|THREE|FOUR|FIVE|TEN|TWENTY"]⟩,
   ⟨0x10880, "NABATAEAN LETTER ", ["FINAL ALEPH|ALEPH|FINAL BETH|BETH|GIMEL|DALETH|FINAL HE|HE",
     "WAW|ZAYIN|HETH|TETH|FINAL YODH|YODH|FINAL KAPH|KAPH|FINAL LAMEDH|LAMEDH|FINAL MEM|MEM",
     "FINAL NUN|NUN|SAMEKH|AYIN|PE|SADHE|QOPH|RESH|FINAL SHIN|SHIN|TAW"]⟩,
   ⟨0x108a7, "NABATAEAN ", ["NUMBER ONE|NUMBER TWO|NUMBER THREE|NUMBER FOUR",
     "CRUCIFORM NUMBER FOUR|NUMBER FIVE|NUMBER TEN|NUMBER TWENTY|NUMBER ONE HUNDRED"]⟩,
   ⟨0x108e0, "HATRAN LETTER ", ["ALEPH|BETH|GIMEL|DALETH-RESH|HE|WAW|ZAYN|HETH|TETH|YODH|KAPH",
     "LAMEDH|MEM|NUN|SAMEKH|AYN|PE|SADHE|QOPH"]⟩,
   ⟨0x108f4, "HATRAN LETTER ", ["SHIN|TAW"]⟩,
   ⟨0x108fb, "HATRAN NUMBER ", ["ONE|FIVE|TEN|TWENTY|ONE HUNDRED"]⟩,
   ⟨0x10900, "PHOENICIAN LETTER ", ["ALF|BET|GAML|DELT|HE|WAU|ZAI|HET|TET|YOD|KAF|LAMD|MEM|NUN",
     "SEMK|AIN|PE|SADE|QOF|ROSH|SHIN|TAU"]⟩,
   ⟨0x10916, "PHOENICIAN NUMBER ", ["ONE|TEN|TWENTY|ONE HUNDRED|TWO|THREE"]⟩,
   ⟨0x1091f, "PHOENICIAN WORD SEPARATOR", [""]⟩,
   ⟨0x10920, "LYDIAN LETTER ", ["A|B|G|D|E|V|I|Y|K|L|M|N|O|R|SS|T|U|F|Q|S|TT|AN|EN|LY|NN|C"]⟩,
   ⟨0x1093f, "LYDIAN TRIANGULAR MARK", [""]⟩,
   ⟨0x10980, "MEROITIC HIEROGLYPHIC LETTER ", ["A|E|I|O|YA|WA|BA|BA-2|PA|MA|NA|NA-2|NE|NE-2|RA",
     "RA-2|LA|KHA|HHA|SA|SA-2|SE|KA|QA|TA|TA-2|TE|TE-2|TO|DA"]⟩,
   ⟨0x1099e, "MEROITIC HIEROGLYPHIC SYMBOL VIDJ", ["|-2"]⟩,
   ⟨0x109a0, "MEROITIC CURSIVE LETTER ", ["A|E|I|O|YA|WA|BA|PA|MA|NA|NE|RA|LA|KHA|HHA|SA",
     "ARCHAIC SA|SE|KA|QA|TA|TE|TO|DA"]⟩,
   ⟨0x109bc, "MEROITIC CURSIVE ", ["FRACTION ELEVEN TWELFTHS|FRACTION ONE HALF|LOGOGRAM RMT",
     "LOGOGRAM IMN"]⟩,
   ⟨0x109c0, "MEROITIC CURSIVE NUMBER ", ["ONE|TWO|THREE|FOUR|FIVE|SIX|SEVEN|EIGHT|NINE|TEN",
     "TWENTY|THIRTY|FORTY|FIFTY|SIXTY|SEVENTY"]⟩,
   ⟨0x109d2, "MEROITIC CURSIVE NUMBER ", ["ONE HUNDRED|TWO HUNDRED|THREE HUNDRED|FOUR HUNDRED",
     "FIVE HUNDRED|SIX HUNDRED|SEVEN HUNDRED|EIGHT HUNDRED|NINE HUNDRED|ONE THOUSAND",
     "TWO THOUSAND|THREE THOUSAND|FOUR THOUSAND|FIVE THOUSAND|SIX THOUSAND|SEVEN THOUSAND",
     "EIGHT THOUSAND|NINE THOUSAND|TEN THOUSAND|TWENTY THOUSAND|THIRTY THOUSAND|FORTY THOUSAND",
     "FIFTY THOUSAND|SIXTY THOUSAND|SEVENTY THOUSAND|EIGHTY THOUSAND|NINETY THOUSAND",
     "ONE HUNDRED THOUSAND|TWO HUNDRED THOUSAND|THREE HUNDRED THOUSAND|FOUR HUNDRED THOUSAND",
     "FIVE HUNDRED THOUSAND|SIX HUNDRED THOUSAND|SEVEN HUNDRED THOUSAND|EIGHT HUNDRED THOUSAND",
     "NINE HUNDRED THOUSAND"]⟩,
   ⟨0x109f6, "MEROITIC CURSIVE FRACTION ", ["ONE TWELFTH|TWO TWELFTHS|THREE TWELFTHS",
     "FOUR TWELFTHS|FIVE TWELFTHS|SIX TWELFTHS|SEVEN TWELFTHS|EIGHT TWELFTHS|NINE TWELFTHS",
     "TEN TWELFTHS"]⟩,
   ⟨0x10a00, "KHAROSHTHI ", ["LETTER A|VOWEL SIGN I|VOWEL SIGN U|VOWEL SIGN VOCALIC R"]⟩,
   ⟨0x10a05, "KHAROSHTHI VOWEL SIGN ", ["E|O"]⟩,
   ⟨0x10a0c, "KHAROSHTHI ", ["VOWEL LENGTH MARK|SIGN DOUBLE RING BELOW|SIGN ANUSVARA",
     "SIGN VISARGA|LETTER KA|LETTER KHA|LETTER GA|LETTER GHA"]⟩,
   ⟨0x10a15, "KHAROSHTHI LETTER ", ["CA|CHA|JA"]⟩,
   ⟨0x10a19, "KHAROSHTHI LETTER ", ["NYA|TTA|TTHA|DDA|DDHA|NNA|TA|THA|DA|DHA|NA|PA|PHA|BA|BHA|MA",
     "YA|RA|LA|VA|SHA|SSA|SA|ZA|HA|KKA|TTTHA|TTTA|VHA"]⟩,
   ⟨0x10a38, "KHAROSHTHI SIGN ", ["BAR ABOVE|CAUDA|DOT BELOW"]⟩,
   ⟨0x10a3f, "KHAROSHTHI ", ["VIRAMA|DIGIT ONE|DIGIT TWO|DIGIT THREE|DIGIT FOUR|NUMBER TEN",
     "NUMBER TWENTY|NUMBER ONE HUNDRED|NUMBER ONE THOUSAND|FRACTION ONE HALF"]⟩,
   ⟨0x10a50, "KHAROSHTHI PUNCTUATION ", ["DOT|SMALL CIRCLE|CIRCLE|CRESCENT BAR|MANGALAM|LOTUS",
     "DANDA|DOUBLE DANDA|LINES"]⟩,
   ⟨0x10a60, "OLD SOUTH ARABIAN LETTER ", ["HE|LAMEDH|HETH|MEM|QOPH|WAW|SHIN|RESH|BETH|TAW|SAT",
     "KAPH|NUN|KHETH|SADHE|SAMEKH|FE|ALEF|AYN|DHADHE|GIMEL|DALETH|GHAYN|TETH|ZAYN|DHALETH|YODH",
     "THAW|THETH"]⟩,
   ⟨0x10a7d, "OLD SOUTH ARABIAN NUM", ["BER ONE|BER FIFTY|ERIC INDICATOR"]⟩,
   ⟨0x10a80, "OLD NORTH ARABIAN LETTER ", ["HEH|LAM|HAH|MEEM|QAF|WAW|ES-2|REH|BEH|TEH|ES-1|KAF",
     "NOON|KHAH|SAD|ES-3|FEH|ALEF|AIN|DAD|GEEM|DAL|GHAIN|TAH|ZAIN|THAL|YEH|THEH|ZAH"]⟩,
   ⟨0x10a9d, "OLD NORTH ARABIAN NUMBER ", ["ONE|TEN|TWENTY"]⟩,
   ⟨0x10ac0, "MANICHAEAN LETTER ", ["ALEPH|BETH|BHETH|GIMEL|GHIMEL|DALETH|HE|WAW"]⟩,
   ⟨0x10ac8, "MANICHAEAN SIGN UD", [""]⟩,
   ⟨0x10ac9, "MANICHAEAN LETTER ", ["ZAYIN|ZHAYIN|JAYIN|JHAYIN|HETH|TETH|YODH|KAPH|XAPH|KHAPH",
     "LAMEDH|DHAMEDH|THAMEDH|MEM|NUN|SAMEKH|AYIN|AAYIN|PE|FE|SADHE|QOPH|XOPH|QHOPH|RESH|SHIN",
     "SSHIN|TAW"]⟩,
   ⟨0x10ae5, "MANICHAEAN ABBREVIATION MARK ", ["ABOVE|BELOW"]⟩,
   ⟨0x10aeb, "MANICHAEAN NUMBER ", ["ONE|FIVE|TEN|TWENTY|ONE HUNDRED"]⟩,
   ⟨0x10af0, "MANICHAEAN PUNCTUATION ", ["STAR|FLEURON|DOUBLE DOT WITHIN DOT|DOT WITHIN DOT|DOT",
     "TWO DOTS|LINE FILLER"]⟩,
   ⟨0x10b00, "AVESTAN LETTER ", ["A|AA|AO|AAO|AN|AAN|AE|AEE|E|EE|O|OO|I|II|U|UU|KE|XE|XYE|XVE|GE",
     "GGE|GHE|CE|JE|TE|THE|DE|DHE|TTE|PE|FE|BE|BHE|NGE|NGYE|NGVE|NE|NYE|NNE|ME|HME|YYE|YE|VE|RE",
     "LE|SE|ZE|SHE|ZHE|SHYE|SSHE|HE"]⟩,
   ⟨0x10b39, "", ["AVESTAN ABBREVIATION MARK|TINY TWO DOTS OVER ONE DOT PUNCTUATION",
     "SMALL TWO DOTS OVER ONE DOT PUNCTUATION"]⟩,
   ⟨0x10b3c, "LARGE ", ["TWO DOTS OVER ONE DOT PUNCTUATION|ONE DOT OVER TWO DOTS PUNCTUATION",
     "TWO RINGS OVER ONE RING PUNCTUATION|ONE RING OVER TWO RINGS PUNCTUATION"]⟩,
   ⟨0x10b40, "INSCRIPTIONAL PARTHIAN LETTER ", ["ALEPH|BETH|GIMEL|DALETH|HE|WAW|ZAYIN|HETH|TETH",
     "YODH|KAPH|LAMEDH|MEM|NUN|SAMEKH|AYIN|PE|SADHE|QOPH|RESH|SHIN|TAW"]⟩,
   ⟨0x10b58, "INSCRIPTIONAL PARTHIAN NUMBER ", ["ONE|TWO|THREE|FOUR|TEN|TWENTY|ONE HUNDRED",
     "ONE THOUSAND"]⟩,
   ⟨0x10b60, "INSCRIPTIONAL PAHLAVI LETTER ", ["ALEPH|BETH|GIMEL|DALETH|HE|WAW-AYIN-RESH|ZAYIN",
     "HETH|TETH|YODH|KAPH|LAMEDH|MEM-QOPH|NUN|SAMEKH|PE|SADHE|SHIN|TAW"]⟩,
   ⟨0x10b78, "INSCRIPTIONAL PAHLAVI NUMBER ", ["ONE|TWO|THREE|FOUR|TEN|TWENTY|ONE HUNDRED",
     "ONE THOUSAND"]⟩,
   ⟨0x10b80, "PSALTER PAHLAVI LETTER ", ["ALEPH|BETH|GIMEL|DALETH|HE|WAW-AYIN-RESH|ZAYIN|HETH",
     "YODH|KAPH|LAMEDH|MEM-QOPH|NUN|SAMEKH|PE|SADHE|SHIN|TAW"]⟩,
   ⟨0x10b99, "PSALTER PAHLAVI ", ["SECTION MARK|TURNED SECTION MARK|FOUR DOTS WITH CROSS",
     "FOUR DOTS WITH DOT"]⟩,
   ⟨0x10ba9, "PSALTER PAHLAVI NUMBER ", ["ONE|TWO|THREE|FOUR|TEN|TWENTY|ONE HUNDRED"]⟩,
   ⟨0x10c00, "OLD TURKIC LETTER ", ["ORKHON A|YENISEI A|YENISEI AE|ORKHON I|YENISEI I|YENISEI E",
     "ORKHON O|ORKHON OE|YENISEI OE|ORKHON AB|YENISEI AB|ORKHON AEB|YENISEI AEB|ORKHON AG",
     "YENISEI AG|ORKHON AEG|YENISEI AEG|ORKHON AD|YENISEI AD|ORKHON AED|ORKHON EZ|YENISEI EZ",
     "ORKHON AY|YENISEI AY|ORKHON AEY|YENISEI AEY|ORKHON AEK|YENISEI AEK|ORKHON OEK|YENISEI OEK",
     "ORKHON AL|YENISEI AL|ORKHON AEL|ORKHON ELT|ORKHON EM|ORKHON AN|ORKHON AEN|YENISEI AEN",
     "ORKHON ENT|YENISEI ENT|ORKHON ENC|YENISEI ENC|ORKHON ENY|YENISEI ENY|YENISEI ANG",
     "ORKHON ENG|YENISEI AENG|ORKHON EP|ORKHON OP|ORKHON IC|ORKHON EC|YENISEI EC|ORKHON AQ",
     "YENISEI AQ|ORKHON IQ|YENISEI IQ|ORKHON OQ|YENISEI OQ|ORKHON AR|YENISEI AR|ORKHON AER",
     "ORKHON AS|ORKHON AES|ORKHON ASH|YENISEI ASH|ORKHON ESH|YENISEI ESH|ORKHON AT|YENISEI AT",
     "ORKHON AET|YENISEI AET|ORKHON OT|ORKHON BASH"]⟩,
   ⟨0x10c80, "OLD HUNGARIAN CAPITAL LETTER ", ["A|AA|EB|AMB|EC|ENC|ECS|ED|AND|E|CLOSE E|EE|EF|EG",
     "EGY|EH|I|II|EJ|EK|AK|UNK|EL|ELY|EM|EN|ENY|O|OO|NIKOLSBURG OE|RUDIMENTA OE|OEE|EP|EMP|ER",
     "SHORT ER|ES|ESZ|ET|ENT|ETY|ECH|U|UU|NIKOLSBURG UE|RUDIMENTA UE|EV|EZ|EZS|ENT-SHAPED SIGN",
     "US"]⟩,
   ⟨0x10cc0, "OLD HUNGARIAN SMALL LETTER ", ["A|AA|EB|AMB|EC|ENC|ECS|ED|AND|E|CLOSE E|EE|EF|EG",
     "EGY|EH|I|II|EJ|EK|AK|UNK|EL|ELY|EM|EN|ENY|O|OO|NIKOLSBURG OE|RUDIMENTA OE|OEE|EP|EMP|ER",
     "SHORT ER|ES|ESZ|ET|ENT|ETY|ECH|U|UU|NIKOLSBURG UE|RUDIMENTA UE|EV|EZ|EZS|ENT-SHAPED SIGN",
     "US"]⟩,
   ⟨0x10cfa, "OLD HUNGARIAN NUMBER ", ["ONE|FIVE|TEN|FIFTY|ONE HUNDRED|ONE THOUSAND"]⟩,
   ⟨0x10d00, "HANIFI ROHINGYA LETTER ", ["A|BA|PA|TA|TTA|JA|CA|HA|KHA|FA|DA|DDA|RA|RRA|ZA|SA|SHA",
     "KA|GA|LA|MA|NA|WA|KINNA WA|YA|KINNA YA|NGA|NYA|VA"]⟩,
   ⟨0x10d1d, "HANIFI ROHINGYA ", ["VOWEL A|VOWEL I|VOWEL U|VOWEL E|VOWEL O|MARK SAKIN",
     "MARK NA KHONNA|SIGN HARBAHAY|SIGN TAHALA|SIGN TANA|SIGN TASSI"]⟩,
   ⟨0x10d30, "HANIFI ROHINGYA DIGIT ", ["ZERO|ONE|TWO|THREE|FOUR|FIVE|SIX|SEVEN|EIGHT|NINE"]⟩,
   ⟨0x10e60, "RUMI DIGIT ", ["ONE|TWO|THREE|FOUR|FIVE|SIX|SEVEN|EIGHT|NINE"]⟩,
   ⟨0x10e69, "RUMI NUMBER ", ["TEN|TWENTY|THIRTY|FORTY|FIFTY|SIXTY|SEVENTY|EIGHTY|NINETY",
     "ONE HUNDRED|TWO HUNDRED|THREE HUNDRED|FOUR HUNDRED|FIVE HUNDRED|SIX HUNDRED|SEVEN HUNDRED",
     "EIGHT HUNDRED|NINE HUNDRED"]⟩,
   ⟨0x10e7b, "RUMI FRACTION ", ["ONE HALF|ONE QUARTER|ONE THIRD|TWO THIRDS"]⟩,
   ⟨0x10e80, "YEZIDI LETTER ", ["ELIF|BE|PE|PHE|THE|SE|CIM|CHIM|CHHIM|HHA|XA|DAL|ZAL|RA|RHA|ZA",
     "JA|SIN|SHIN|SAD|DAD|TA|ZE|EYN|XHEYN|FA|VA|VA ALTERNATE FORM|QAF|KAF|KHAF|GAF|LAM|MIM|NUN",
     "UM|WAW|OW|EW|HAY|YOT|ET"]⟩,
   ⟨0x10eab, "YEZIDI ", ["COMBINING HAMZA MARK|COMBINING MADDA MARK|HYPHENATION MARK"]⟩,
   ⟨0x10eb0, "YEZIDI LETTER ", ["LAM WITH DOT ABOVE|YOT WITH CIRCUMFLEX ABOVE"]⟩,
   ⟨0x10f00, "OLD SOGDIAN LETTER ", ["ALEPH|FINAL ALEPH|BETH|FINAL BETH|GIMEL|HE|FINAL HE|WAW",
     "ZAYIN|HETH|YODH|KAPH|LAMEDH|MEM|NUN|FINAL NUN|FINAL NUN WITH VERTICAL TAIL|SAMEKH|AYIN",
     "ALTERNATE AYIN|PE|SADHE|FINAL SADHE|FINAL SADHE WITH VERTICAL TAIL|RESH-AYIN-DALETH|SHIN",
     "TAW|FINAL TAW|FINAL TAW WITH VERTICAL TAIL"]⟩,
   ⟨0x10f1d, "OLD SOGDIAN NUMBER ", ["ONE|TWO|THREE|FOUR|FIVE|TEN|TWENTY|THIRTY|ONE HUNDRED"]⟩,
   ⟨0x10f26, "OLD SOGDIAN ", ["FRACTION ONE HALF|LIGATURE AYIN-DALETH"]⟩,
   ⟨0x10f30, "SOGDIAN LETTER ", ["ALEPH|BETH|GIMEL|HE|WAW|ZAYIN|HETH|YODH|KAPH|LAMEDH|MEM|NUN",
     "SAMEKH|AYIN|PE|SADHE|RESH-AYIN|SHIN|TAW|FETH|LESH"]⟩,
   ⟨0x10f45, "SOGDIAN INDEPENDENT SHIN", [""]⟩,
   ⟨0x10f46, "SOGDIAN COMBINING ", ["DOT BELOW|TWO DOTS BELOW|DOT ABOVE|TWO DOTS ABOVE",
     "CURVE ABOVE|CURVE BELOW|HOOK ABOVE|HOOK BELOW|LONG HOOK BELOW|RESH BELOW|STROKE BELOW"]⟩,
   ⟨0x10f51, "SOGDIAN NUMBER ", ["ONE|TEN|TWENTY|ONE HUNDRED"]⟩,
   ⟨0x10f55, "SOGDIAN PUNCTUATION ", ["TWO VERTICAL BARS|TWO VERTICAL BARS WITH DOTS",
     "CIRCLE WITH DOT|TWO CIRCLES WITH DOTS|HALF CIRCLE WITH DOT"]⟩,
   ⟨0x10f70, "OLD UYGHUR LETTER ", ["ALEPH|BETH|GIMEL-HETH|WAW|ZAYIN|FINAL HETH|YODH|KAPH|LAMEDH",
     "MEM|NUN|SAMEKH|PE|SADHE|RESH|SHIN|TAW|LESH"]⟩,
   ⟨0x10f82, "OLD UYGHUR COMBINING ", ["DOT ABOVE|DOT BELOW|TWO DOTS ABOVE|TWO DOTS BELOW"]⟩,
   ⟨0x10f86, "OLD UYGHUR PUNCTUATION ", ["BAR|TWO BARS|TWO DOTS|FOUR DOTS"]⟩,
   ⟨0x10fb0, "CHORASMIAN LETTER ", ["ALEPH|SMALL ALEPH|BETH|GIMEL|DALETH|HE|WAW|CURLED WAW|ZAYIN",
     "HETH|YODH|KAPH|LAMEDH|MEM|NUN|SAMEKH|AYIN|PE|RESH|SHIN|TAW"]⟩,
   ⟨0x10fc5, "CHORASMIAN NUMBER ", ["ONE|TWO|THREE|FOUR|TEN|TWENTY|ONE HUNDRED"]⟩,
   ⟨0x10fe0, "ELYMAIC LETTER ", ["ALEPH|BETH|GIMEL|DALETH|HE|WAW|ZAYIN|HETH|TETH|YODH|KAPH",
     "LAMEDH|MEM|NUN|SAMEKH|AYIN|PE|SADHE|QOPH|RESH|SHIN|TAW"]⟩,
   ⟨0x10ff6, "ELYMAIC LIGATURE ZAYIN-YODH", [""]⟩]

end JogShuttle.Text
