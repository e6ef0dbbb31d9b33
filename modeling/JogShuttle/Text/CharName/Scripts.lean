import JogShuttle.Text.CharName.Run

/-!
# Names: scripts

The names of scripts of Asia and Africa, and further Latin and Greek letters (Unicode 14).
-/

set_option autoImplicit false

namespace JogShuttle.Text

def scriptRuns : List NameRun :=
  [⟨0xe01, "THAI CHARACTER ", ["KO KAI|KHO KHAI|KHO KHUAT|KHO KHWAI|KHO KHON|KHO RAKHANG|NGO NGU",
     "CHO CHAN|CHO CHING|CHO CHANG|SO SO|CHO CHOE|YO YING|DO CHADA|TO PATAK|THO THAN",
     "THO NANGMONTHO|THO PHUTHAO|NO NEN|DO DEK|TO TAO|THO THUNG|THO THAHAN|THO THONG|NO NU",
     "BO BAIMAI|PO PLA|PHO PHUNG|FO FA|PHO PHAN|FO FAN|PHO SAMPHAO|MO MA|YO YAK|RO RUA|RU",
     "LO LING|LU|WO WAEN|SO SALA|SO RUSI|SO SUA|HO HIP|LO CHULA|O ANG|HO NOKHUK|PAIYANNOI|SARA A",
     "MAI HAN-AKAT|SARA AA|SARA AM|SARA I|SARA II|SARA UE|SARA UEE|SARA U|SARA UU|PHINTHU"]⟩,
   ⟨0xe3f, "THAI CURRENCY SYMBOL BAHT", [""]⟩,
   ⟨0xe40, "THAI CHARACTER ", ["SARA E|SARA AE|SARA O|SARA AI MAIMUAN|SARA AI MAIMALAI",
     "LAKKHANGYAO|MAIYAMOK|MAITAIKHU|MAI EK|MAI THO|MAI TRI|MAI CHATTAWA|THANTHAKHAT|NIKHAHIT",
     "YAMAKKAN|FONGMAN"]⟩,
   ⟨0xe50, "THAI DIGIT ", ["ZERO|ONE|TWO|THREE|FOUR|FIVE|SIX|SEVEN|EIGHT|NINE"]⟩,
   ⟨0xe5a, "THAI CHARACTER ", ["ANGKHANKHU|KHOMUT"]⟩,
   ⟨0xe81, "LAO LETTER K", ["O|HO SUNG"]⟩,
   ⟨0xe84, "LAO LETTER KHO TAM", [""]⟩,
   ⟨0xe86, "LAO LETTER ", ["PALI GHA|NGO|CO|PALI CHA|SO TAM"]⟩,
   ⟨0xe8c, "LAO LETTER ", ["PALI JHA|NYO|PALI NYA|PALI TTA|PALI TTHA|PALI DDA|PALI DDHA|PALI NNA",
     "DO|TO|THO SUNG|THO TAM|PALI DHA|NO|BO|PO|PHO SUNG|FO TAM|PHO TAM|FO SUNG|PALI BHA|MO|YO",
     "LO LING"]⟩,
   ⟨0xea5, "LAO LETTER LO LOOT", [""]⟩,
   ⟨0xea7, "LAO LETTER ", ["WO|SANSKRIT SHA|SANSKRIT SSA|SO SUNG|HO SUNG|PALI LLA|O|HO TAM"]⟩,
   ⟨0xeaf, "LAO ELLIPSIS", [""]⟩,
   ⟨0xeb0, "LAO VOWEL SIGN ", ["A|MAI KAN|AA|AM|I|II|Y|YY|U|UU"]⟩,
   ⟨0xeba, "LAO ", ["SIGN PALI VIRAMA|VOWEL SIGN MAI KON|SEMIVOWEL SIGN LO|SEMIVOWEL SIGN NYO"]⟩,
   ⟨0xec0, "LAO VOWEL SIGN ", ["E|EI|O|AY|AI"]⟩,
   ⟨0xec6, "LAO KO LA", [""]⟩,
   ⟨0xec8, "LAO TONE MAI ", ["EK|THO|TI|CATAWA"]⟩,
   ⟨0xecc, "LAO ", ["CANCELLATION MARK|NIGGAHITA"]⟩,
   ⟨0xed0, "LAO DIGIT ", ["ZERO|ONE|TWO|THREE|FOUR|FIVE|SIX|SEVEN|EIGHT|NINE"]⟩,
   ⟨0xedc, "LAO ", ["HO NO|HO MO|LETTER KHMU GO|LETTER KHMU NYO"]⟩,
   ⟨0xf00, "TIBETAN SYLLABLE OM", [""]⟩,
   ⟨0xf01, "TIBETAN MARK ", ["GTER YIG MGO TRUNCATED A|GTER YIG MGO -UM RNAM BCAD MA",
     "GTER YIG MGO -UM GTER TSHEG MA|INITIAL YIG MGO MDUN MA|CLOSING YIG MGO SGAB MA",
     "CARET YIG MGO PHUR SHAD MA|YIG MGO TSHEG SHAD MA|SBRUL SHAD|BSKUR YIG MGO",
     "BKA- SHOG YIG MGO|INTERSYLLABIC TSHEG|DELIMITER TSHEG BSTAR|SHAD|NYIS SHAD|TSHEG SHAD",
     "NYIS TSHEG SHAD|RIN CHEN SPUNGS SHAD|RGYA GRAM SHAD|CARET -DZUD RTAGS ME LONG CAN",
     "GTER TSHEG"]⟩,
   ⟨0xf15, "TIBETAN LOGOTYPE SIGN ", ["CHAD RTAGS|LHAG RTAGS"]⟩,
   ⟨0xf17, "TIBETAN ASTROLOGICAL SIGN ", ["SGRA GCAN -CHAR RTAGS|-KHYUD PA|SDONG TSHUGS"]⟩,
   ⟨0xf1a, "TIBETAN SIGN RDEL ", ["DKAR GCIG|DKAR GNYIS|DKAR GSUM|NAG GCIG|NAG GNYIS",
     "DKAR RDEL NAG"]⟩,
   ⟨0xf20, "TIBETAN DIGIT ", ["ZERO|ONE|TWO|THREE|FOUR|FIVE|SIX|SEVEN|EIGHT|NINE"]⟩,
   ⟨0xf2a, "TIBETAN DIGIT HALF ", ["ONE|TWO|THREE|FOUR|FIVE|SIX|SEVEN|EIGHT|NINE|ZERO"]⟩,
   ⟨0xf34, "TIBETAN MARK ", ["BSDUS RTAGS|NGAS BZUNG NYI ZLA|CARET -DZUD RTAGS BZHI MIG CAN",
     "NGAS BZUNG SGOR RTAGS|CHE MGO|TSA -PHRU|GUG RTAGS GYON|GUG RTAGS GYAS|ANG KHANG GYON",
     "ANG KHANG GYAS"]⟩,
   ⟨0xf3e, "TIBETAN SIGN ", ["YAR TSHES|MAR TSHES"]⟩,
   ⟨0xf40, "TIBETAN LETTER ", ["KA|KHA|GA|GHA|NGA|CA|CHA|JA"]⟩,
   ⟨0xf49, "TIBETAN LETTER ", ["NYA|TTA|TTHA|DDA|DDHA|NNA|TA|THA|DA|DHA|NA|PA|PHA|BA|BHA|MA|TSA",
     "TSHA|DZA|DZHA|WA|ZHA|ZA|-A|YA|RA|LA|SHA|SSA|SA|HA|A|KSSA|FIXED-FORM RA|KKA|RRA"]⟩,
   ⟨0xf71, "TIBETAN VOWEL SIGN ", ["AA|I|II|U|UU|VOCALIC R|VOCALIC RR|VOCALIC L|VOCALIC LL|E|EE",
     "O|OO"]⟩,
   ⟨0xf7e, "TIBETAN ", ["SIGN RJES SU NGA RO|SIGN RNAM BCAD|VOWEL SIGN REVERSED I",
     "VOWEL SIGN REVERSED II|SIGN NYI ZLA NAA DA|SIGN SNA LDAN|MARK HALANTA|MARK PALUTA"]⟩,
   ⟨0xf86, "TIBETAN SIGN ", ["LCI RTAGS|YANG RTAGS|LCE TSA CAN|MCHU CAN|GRU CAN RGYINGS",
     "GRU MED RGYINGS|INVERTED MCHU CAN"]⟩,
   ⟨0xf8d, "TIBETAN SUBJOINED SIGN ", ["LCE TSA CAN|MCHU CAN|INVERTED MCHU CAN"]⟩,
   ⟨0xf90, "TIBETAN SUBJOINED LETTER ", ["KA|KHA|GA|GHA|NGA|CA|CHA|JA"]⟩,
   ⟨0xf99, "TIBETAN SUBJOINED LETTER ", ["NYA|TTA|TTHA|DDA|DDHA|NNA|TA|THA|DA|DHA|NA|PA|PHA|BA",
     "BHA|MA|TSA|TSHA|DZA|DZHA|WA|ZHA|ZA|-A|YA|RA|LA|SHA|SSA|SA|HA|A|KSSA|FIXED-FORM WA",
     "FIXED-FORM YA|FIXED-FORM RA"]⟩,
   ⟨0xfbe, "TIBETAN KU RU KHA", ["| BZHI MIG CAN"]⟩,
   ⟨0xfc0, "TIBETAN CANTILLATION SIGN ", ["HEAVY BEAT|LIGHT BEAT|CANG TE-U|SBUB -CHAL"]⟩,
   ⟨0xfc4, "TIBETAN SYMBOL ", ["DRIL BU|RDO RJE|PADMA GDAN|RDO RJE RGYA GRAM|PHUR PA|NOR BU",
     "NOR BU NYIS -KHYIL|NOR BU GSUM -KHYIL|NOR BU BZHI -KHYIL"]⟩,
   ⟨0xfce, "TIBETAN SIGN RDEL NAG ", ["RDEL DKAR|GSUM"]⟩,
   ⟨0xfd0, "TIBETAN MARK ", ["BSKA- SHOG GI MGO RGYAN|MNYAM YIG GI MGO RGYAN|NYIS TSHEG",
     "INITIAL BRDA RNYING YIG MGO MDUN MA|CLOSING BRDA RNYING YIG MGO SGAB MA"]⟩,
   ⟨0xfd5, "", ["RIGHT-FACING SVASTI SIGN|LEFT-FACING SVASTI SIGN",
     "RIGHT-FACING SVASTI SIGN WITH DOTS|LEFT-FACING SVASTI SIGN WITH DOTS",
     "TIBETAN MARK LEADING MCHAN RTAGS|TIBETAN MARK TRAILING MCHAN RTAGS"]⟩,
   ⟨0x1000, "MYANMAR LETTER ", ["KA|KHA|GA|GHA|NGA|CA|CHA|JA|JHA|NYA|NNYA|TTA|TTHA|DDA|DDHA|NNA",
     "TA|THA|DA|DHA|NA|PA|PHA|BA|BHA|MA|YA|RA|LA|WA|SA|HA|LLA|A|SHAN A|I|II|U|UU|E|MON E|O|AU"]⟩,
   ⟨0x102b, "MYANMAR VOWEL SIGN ", ["TALL AA|AA|I|II|U|UU|E|AI|MON II|MON O|E ABOVE"]⟩,
   ⟨0x1036, "MYANMAR SIGN ", ["ANUSVARA|DOT BELOW|VISARGA|VIRAMA|ASAT"]⟩,
   ⟨0x103b, "MYANMAR CONSONANT SIGN MEDIAL ", ["YA|RA|WA|HA"]⟩,
   ⟨0x103f, "MYANMAR LETTER GREAT SA", [""]⟩,
   ⟨0x1040, "MYANMAR DIGIT ", ["ZERO|ONE|TWO|THREE|FOUR|FIVE|SIX|SEVEN|EIGHT|NINE"]⟩,
   ⟨0x104a, "MYANMAR ", ["SIGN LITTLE SECTION|SIGN SECTION|SYMBOL LOCATIVE|SYMBOL COMPLETED",
     "SYMBOL AFOREMENTIONED|SYMBOL GENITIVE|LETTER SHA|LETTER SSA"]⟩,
   ⟨0x1052, "MYANMAR LETTER VOCALIC ", ["R|RR|L|LL"]⟩,
   ⟨0x1056, "MYANMAR VOWEL SIGN VOCALIC ", ["R|RR|L|LL"]⟩,
   ⟨0x105a, "MYANMAR LETTER MON ", ["NGA|JHA|BBA|BBE"]⟩,
   ⟨0x105e, "MYANMAR CONSONANT SIGN MON MEDIAL ", ["NA|MA|LA"]⟩,
   ⟨0x1061, "MYANMAR ", ["LETTER SGAW KAREN SHA|VOWEL SIGN SGAW KAREN EU",
     "TONE MARK SGAW KAREN HATHI|TONE MARK SGAW KAREN KE PHO"]⟩,
   ⟨0x1065, "MYANMAR LETTER WESTERN PWO KAREN ", ["THA|PWA"]⟩,
   ⟨0x1067, "MYANMAR VOWEL SIGN WESTERN PWO KAREN ", ["EU|UE"]⟩,
   ⟨0x1069, "MYANMAR SIGN WESTERN PWO KAREN TONE-", ["1|2|3|4|5"]⟩,
   ⟨0x106e, "MYANMAR LETTER EASTERN PWO KAREN ", ["NNA|YWA|GHWA"]⟩,
   ⟨0x1071, "MYANMAR VOWEL SIGN ", ["GEBA KAREN I|KAYAH OE|KAYAH U|KAYAH EE"]⟩,
   ⟨0x1075, "MYANMAR LETTER SHAN ", ["KA|KHA|GA|CA|ZA|NYA|DA|NA|PHA|FA|BA|THA|HA"]⟩,
   ⟨0x1082, "MYANMAR CONSONANT SIGN SHAN MEDIAL WA", [""]⟩,
   ⟨0x1083, "MYANMAR VOWEL SIGN SHAN ", ["AA|E|E ABOVE|FINAL Y"]⟩,
   ⟨0x1087, "MYANMAR SIGN SHAN ", ["TONE-2|TONE-3|TONE-5|TONE-6|COUNCIL TONE-2|COUNCIL TONE-3",
     "COUNCIL EMPHATIC TONE"]⟩,
   ⟨0x108e, "MYANMAR ", ["LETTER RUMAI PALAUNG FA|SIGN RUMAI PALAUNG TONE-5"]⟩,
   ⟨0x1090, "MYANMAR SHAN DIGIT ", ["ZERO|ONE|TWO|THREE|FOUR|FIVE|SIX|SEVEN|EIGHT|NINE"]⟩,
   ⟨0x109a, "MYANMAR ", ["SIGN KHAMTI TONE-1|SIGN KHAMTI TONE-3|VOWEL SIGN AITON A",
     "VOWEL SIGN AITON AI|SYMBOL SHAN ONE|SYMBOL SHAN EXCLAMATION"]⟩,
   ⟨0x10a0, "GEORGIAN CAPITAL LETTER ", ["AN|BAN|GAN|DON|EN|VIN|ZEN|TAN|IN|KAN|LAS|MAN|NAR|ON",
     "PAR|ZHAR|RAE|SAN|TAR|UN|PHAR|KHAR|GHAN|QAR|SHIN|CHIN|CAN|JIL|CIL|CHAR|XAN|JHAN|HAE|HE|HIE",
     "WE|HAR|HOE"]⟩,
   ⟨0x10c7, "GEORGIAN CAPITAL LETTER YN", [""]⟩,
   ⟨0x10cd, "GEORGIAN CAPITAL LETTER AEN", [""]⟩,
   ⟨0x10d0, "GEORGIAN LETTER ", ["AN|BAN|GAN|DON|EN|VIN|ZEN|TAN|IN|KAN|LAS|MAN|NAR|ON|PAR|ZHAR",
     "RAE|SAN|TAR|UN|PHAR|KHAR|GHAN|QAR|SHIN|CHIN|CAN|JIL|CIL|CHAR|XAN|JHAN|HAE|HE|HIE|WE|HAR",
     "HOE|FI|YN|ELIFI|TURNED GAN|AIN"]⟩,
   ⟨0x10fb, "", ["GEORGIAN PARAGRAPH SEPARATOR|MODIFIER LETTER GEORGIAN NAR"]⟩,
   ⟨0x10fd, "GEORGIAN LETTER ", ["AEN|HARD SIGN|LABIAL SIGN"]⟩,
   ⟨0x1100, "HANGUL CHOSEONG ", ["KIYEOK|SSANGKIYEOK|NIEUN|TIKEUT|SSANGTIKEUT|RIEUL|MIEUM|PIEUP",
     "SSANGPIEUP|SIOS|SSANGSIOS|IEUNG|CIEUC|SSANGCIEUC|CHIEUCH|KHIEUKH|THIEUTH|PHIEUPH|HIEUH",
     "NIEUN-KIYEOK|SSANGNIEUN|NIEUN-TIKEUT|NIEUN-PIEUP|TIKEUT-KIYEOK|RIEUL-NIEUN|SSANGRIEUL",
     "RIEUL-HIEUH|KAPYEOUNRIEUL|MIEUM-PIEUP|KAPYEOUNMIEUM"]⟩,
   ⟨0x111e, "HANGUL CHOSEONG PIEUP-", ["KIYEOK|NIEUN|TIKEUT|SIOS|SIOS-KIYEOK|SIOS-TIKEUT",
     "SIOS-PIEUP|SSANGSIOS|SIOS-CIEUC|CIEUC|CHIEUCH|THIEUTH|PHIEUPH"]⟩,
   ⟨0x112b, "HANGUL CHOSEONG KAPYEOUN", ["PIEUP|SSANGPIEUP"]⟩,
   ⟨0x112d, "HANGUL CHOSEONG SIOS-", ["KIYEOK|NIEUN|TIKEUT|RIEUL|MIEUM|PIEUP|PIEUP-KIYEOK",
     "SSANGSIOS|IEUNG|CIEUC|CHIEUCH|KHIEUKH|THIEUTH|PHIEUPH|HIEUH"]⟩,
   ⟨0x113c, "HANGUL CHOSEONG ", ["CHITUEUMSIOS|CHITUEUMSSANGSIOS|CEONGCHIEUMSIOS",
     "CEONGCHIEUMSSANGSIOS|PANSIOS|IEUNG-KIYEOK|IEUNG-TIKEUT|IEUNG-MIEUM|IEUNG-PIEUP|IEUNG-SIOS",
     "IEUNG-PANSIOS|SSANGIEUNG|IEUNG-CIEUC|IEUNG-CHIEUCH|IEUNG-THIEUTH|IEUNG-PHIEUPH|YESIEUNG",
     "CIEUC-IEUNG|CHITUEUMCIEUC|CHITUEUMSSANGCIEUC|CEONGCHIEUMCIEUC|CEONGCHIEUMSSANGCIEUC",
     "CHIEUCH-KHIEUKH|CHIEUCH-HIEUH|CHITUEUMCHIEUCH|CEONGCHIEUMCHIEUCH|PHIEUPH-PIEUP",
     "KAPYEOUNPHIEUPH|SSANGHIEUH|YEORINHIEUH|KIYEOK-TIKEUT|NIEUN-SIOS|NIEUN-CIEUC|NIEUN-HIEUH",
     "TIKEUT-RIEUL|FILLER"]⟩,
   ⟨0x1160, "HANGUL JUNGSEONG ", ["FILLER|A|AE|YA|YAE|EO|E|YEO|YE|O|WA|WAE|OE|YO|U|WEO|WE|WI|YU",
     "EU|YI|I|A-O|A-U|YA-O|YA-YO|EO-O|EO-U|EO-EU|YEO-O|YEO-U|O-EO|O-E|O-YE|O-O|O-U|YO-YA|YO-YAE",
     "YO-YEO|YO-O|YO-I|U-A|U-AE|U-EO-EU|U-YE|U-U|YU-A|YU-EO|YU-E|YU-YEO|YU-YE|YU-U|YU-I|EU-U",
     "EU-EU|YI-U|I-A|I-YA|I-O|I-U|I-EU|I-ARAEA|ARAEA|ARAEA-EO|ARAEA-U|ARAEA-I|SSANGARAEA|A-EU",
     "YA-U|YEO-YA|O-YA|O-YAE"]⟩,
   ⟨0x11a8, "HANGUL JONGSEONG ", ["KIYEOK|SSANGKIYEOK|KIYEOK-SIOS|NIEUN|NIEUN-CIEUC|NIEUN-HIEUH",
     "TIKEUT|RIEUL|RIEUL-KIYEOK|RIEUL-MIEUM|RIEUL-PIEUP|RIEUL-SIOS|RIEUL-THIEUTH|RIEUL-PHIEUPH",
     "RIEUL-HIEUH|MIEUM|PIEUP|PIEUP-SIOS|SIOS|SSANGSIOS|IEUNG|CIEUC|CHIEUCH|KHIEUKH|THIEUTH",
     "PHIEUPH|HIEUH|KIYEOK-RIEUL|KIYEOK-SIOS-KIYEOK|NIEUN-KIYEOK|NIEUN-TIKEUT|NIEUN-SIOS",
     "NIEUN-PANSIOS|NIEUN-THIEUTH|TIKEUT-KIYEOK|TIKEUT-RIEUL|RIEUL-KIYEOK-SIOS|RIEUL-NIEUN",
     "RIEUL-TIKEUT|RIEUL-TIKEUT-HIEUH|SSANGRIEUL|RIEUL-MIEUM-KIYEOK|RIEUL-MIEUM-SIOS",
     "RIEUL-PIEUP-SIOS|RIEUL-PIEUP-HIEUH|RIEUL-KAPYEOUNPIEUP|RIEUL-SSANGSIOS|RIEUL-PANSIOS",
     "RIEUL-KHIEUKH|RIEUL-YEORINHIEUH|MIEUM-KIYEOK|MIEUM-RIEUL|MIEUM-PIEUP|MIEUM-SIOS",
     "MIEUM-SSANGSIOS|MIEUM-PANSIOS|MIEUM-CHIEUCH|MIEUM-HIEUH|KAPYEOUNMIEUM|PIEUP-RIEUL",
     "PIEUP-PHIEUPH|PIEUP-HIEUH|KAPYEOUNPIEUP|SIOS-KIYEOK|SIOS-TIKEUT|SIOS-RIEUL|SIOS-PIEUP",
     "PANSIOS|IEUNG-KIYEOK|IEUNG-SSANGKIYEOK|SSANGIEUNG|IEUNG-KHIEUKH|YESIEUNG|YESIEUNG-SIOS",
     "YESIEUNG-PANSIOS|PHIEUPH-PIEUP|KAPYEOUNPHIEUPH|HIEUH-NIEUN|HIEUH-RIEUL|HIEUH-MIEUM",
     "HIEUH-PIEUP|YEORINHIEUH|KIYEOK-NIEUN|KIYEOK-PIEUP|KIYEOK-CHIEUCH|KIYEOK-KHIEUKH",
     "KIYEOK-HIEUH|SSANGNIEUN"]⟩,
   ⟨0x1200, "ETHIOPIC SYLLABLE ", ["HA|HU|HI|HAA|HEE|HE|HO|HOA|LA|LU|LI|LAA|LEE|LE|LO|LWA|HHA",
     "HHU|HHI|HHAA|HHEE|HHE|HHO|HHWA|MA|MU|MI|MAA|MEE|ME|MO|MWA|SZA|SZU|SZI|SZAA|SZEE|SZE|SZO",
     "SZWA|RA|RU|RI|RAA|REE|RE|RO|RWA|SA|SU|SI|SAA|SEE|SE|SO|SWA|SHA|SHU|SHI|SHAA|SHEE|SHE|SHO",
     "SHWA|QA|QU|QI|QAA|QEE|QE|QO|QOA|QWA"]⟩,
   ⟨0x124a, "ETHIOPIC SYLLABLE QW", ["I|AA|EE|E"]⟩,
   ⟨0x1250, "ETHIOPIC SYLLABLE QH", ["A|U|I|AA|EE|E|O"]⟩,
   ⟨0x1258, "ETHIOPIC SYLLABLE QHWA", [""]⟩,
   ⟨0x125a, "ETHIOPIC SYLLABLE QHW", ["I|AA|EE|E"]⟩,
   ⟨0x1260, "ETHIOPIC SYLLABLE ", ["BA|BU|BI|BAA|BEE|BE|BO|BWA|VA|VU|VI|VAA|VEE|VE|VO|VWA|TA|TU",
     "TI|TAA|TEE|TE|TO|TWA|CA|CU|CI|CAA|CEE|CE|CO|CWA|XA|XU|XI|XAA|XEE|XE|XO|XOA|XWA"]⟩,
   ⟨0x128a, "ETHIOPIC SYLLABLE XW", ["I|AA|EE|E"]⟩,
   ⟨0x1290, "ETHIOPIC SYLLABLE N", ["A|U|I|AA|EE|E|O|WA|YA|YU|YI|YAA|YEE|YE|YO|YWA"]⟩,
   ⟨0x12a0, "ETHIOPIC SYLLABLE GLOTTAL ", ["A|U|I|AA|EE|E|O|WA"]⟩,
   ⟨0x12a8, "ETHIOPIC SYLLABLE K", ["A|U|I|AA|EE|E|O|OA|WA"]⟩,
   ⟨0x12b2, "ETHIOPIC SYLLABLE KW", ["I|AA|EE|E"]⟩,
   ⟨0x12b8, "ETHIOPIC SYLLABLE KX", ["A|U|I|AA|EE|E|O"]⟩,
   ⟨0x12c0, "ETHIOPIC SYLLABLE KXWA", [""]⟩,
   ⟨0x12c2, "ETHIOPIC SYLLABLE KXW", ["I|AA|EE|E"]⟩,
   ⟨0x12c8, "ETHIOPIC SYLLABLE W", ["A|U|I|AA|EE|E|O|OA"]⟩,
   ⟨0x12d0, "ETHIOPIC SYLLABLE PHARYNGEAL ", ["A|U|I|AA|EE|E|O"]⟩,
   ⟨0x12d8, "ETHIOPIC SYLLABLE ", ["ZA|ZU|ZI|ZAA|ZEE|ZE|ZO|ZWA|ZHA|ZHU|ZHI|ZHAA|ZHEE|ZHE|ZHO",
     "ZHWA|YA|YU|YI|YAA|YEE|YE|YO|YOA|DA|DU|DI|DAA|DEE|DE|DO|DWA|DDA|DDU|DDI|DDAA|DDEE|DDE|DDO",
     "DDWA|JA|JU|JI|JAA|JEE|JE|JO|JWA|GA|GU|GI|GAA|GEE|GE|GO|GOA|GWA"]⟩,
   ⟨0x1312, "ETHIOPIC SYLLABLE GW", ["I|AA|EE|E"]⟩,
   ⟨0x1318, "ETHIOPIC SYLLABLE ", ["GGA|GGU|GGI|GGAA|GGEE|GGE|GGO|GGWAA|THA|THU|THI|THAA|THEE",
     "THE|THO|THWA|CHA|CHU|CHI|CHAA|CHEE|CHE|CHO|CHWA|PHA|PHU|PHI|PHAA|PHEE|PHE|PHO|PHWA|TSA|TSU",
     "TSI|TSAA|TSEE|TSE|TSO|TSWA|TZA|TZU|TZI|TZAA|TZEE|TZE|TZO|TZOA|FA|FU|FI|FAA|FEE|FE|FO|FWA",
     "PA|PU|PI|PAA|PEE|PE|PO|PWA|RYA|MYA|FYA"]⟩,
   ⟨0x135d, "ETHIOPIC ", ["COMBINING GEMINATION AND VOWEL LENGTH MARK",
     "COMBINING VOWEL LENGTH MARK|COMBINING GEMINATION MARK|SECTION MARK|WORDSPACE|FULL STOP",
     "COMMA|SEMICOLON|COLON|PREFACE COLON|QUESTION MARK|PARAGRAPH SEPARATOR"]⟩,
   ⟨0x1369, "ETHIOPIC DIGIT ", ["ONE|TWO|THREE|FOUR|FIVE|SIX|SEVEN|EIGHT|NINE"]⟩,
   ⟨0x1372, "ETHIOPIC NUMBER ", ["TEN|TWENTY|THIRTY|FORTY|FIFTY|SIXTY|SEVENTY|EIGHTY|NINETY",
     "HUNDRED|TEN THOUSAND"]⟩,
   ⟨0x1380, "ETHIOPIC SYLLABLE ", ["SEBATBEIT MWA|MWI|MWEE|MWE|SEBATBEIT BWA|BWI|BWEE|BWE",
     "SEBATBEIT FWA|FWI|FWEE|FWE|SEBATBEIT PWA|PWI|PWEE|PWE"]⟩,
   ⟨0x1390, "ETHIOPIC TONAL MARK ", ["YIZET|DERET|RIKRIK|SHORT RIKRIK|DIFAT|KENAT|CHIRET|HIDET",
     "DERET-HIDET|KURT"]⟩,
   ⟨0x13a0, "CHEROKEE LETTER ", ["A|E|I|O|U|V|GA|KA|GE|GI|GO|GU|GV|HA|HE|HI|HO|HU|HV|LA|LE|LI|LO",
     "LU|LV|MA|ME|MI|MO|MU|NA|HNA|NAH|NE|NI|NO|NU|NV|QUA|QUE|QUI|QUO|QUU|QUV|SA|S|SE|SI|SO|SU|SV",
     "DA|TA|DE|TE|DI|TI|DO|DU|DV|DLA|TLA|TLE|TLI|TLO|TLU|TLV|TSA|TSE|TSI|TSO|TSU|TSV|WA|WE|WI|WO",
     "WU|WV|YA|YE|YI|YO|YU|YV|MV"]⟩,
   ⟨0x13f8, "CHEROKEE SMALL LETTER ", ["YE|YI|YO|YU|YV|MV"]⟩,
   ⟨0x1400, "CANADIAN SYLLABICS ", ["HYPHEN|E|AAI|I|II|O|OO|Y-CREE OO|CARRIER EE|CARRIER I|A|AA",
     "WE|WEST-CREE WE|WI|WEST-CREE WI|WII|WEST-CREE WII|WO|WEST-CREE WO|WOO|WEST-CREE WOO",
     "NASKAPI WOO|WA|WEST-CREE WA|WAA|WEST-CREE WAA|NASKAPI WAA|AI|Y-CREE W|GLOTTAL STOP"]⟩,
   ⟨0x141f, "CANADIAN SYLLABICS FINAL ", ["ACUTE|GRAVE|BOTTOM HALF RING|TOP HALF RING",
     "RIGHT HALF RING|RING|DOUBLE ACUTE|DOUBLE SHORT VERTICAL STROKES|MIDDLE DOT",
     "SHORT HORIZONTAL STROKE|PLUS|DOWN TACK"]⟩,
   ⟨0x142b, "CANADIAN SYLLABICS ", ["EN|IN|ON|AN|PE|PAAI|PI|PII|PO|POO|Y-CREE POO|CARRIER HEE",
     "CARRIER HI|PA|PAA|PWE|WEST-CREE PWE|PWI|WEST-CREE PWI|PWII|WEST-CREE PWII|PWO",
     "WEST-CREE PWO|PWOO|WEST-CREE PWOO|PWA|WEST-CREE PWA|PWAA|WEST-CREE PWAA|Y-CREE PWAA|P",
     "WEST-CREE P|CARRIER H|TE|TAAI|TI|TII|TO|TOO|Y-CREE TOO|CARRIER DEE|CARRIER DI|TA|TAA|TWE",
     "WEST-CREE TWE|TWI|WEST-CREE TWI|TWII|WEST-CREE TWII|TWO|WEST-CREE TWO|TWOO|WEST-CREE TWOO",
     "TWA|WEST-CREE TWA|TWAA|WEST-CREE TWAA|NASKAPI TWAA|T|TTE|TTI|TTO|TTA|KE|KAAI|KI|KII|KO|KOO",
     "Y-CREE KOO|KA|KAA|KWE|WEST-CREE KWE|KWI|WEST-CREE KWI|KWII|WEST-CREE KWII|KWO",
     "WEST-CREE KWO|KWOO|WEST-CREE KWOO|KWA|WEST-CREE KWA|KWAA|WEST-CREE KWAA|NASKAPI KWAA|K|KW",
     "SOUTH-SLAVEY KEH|SOUTH-SLAVEY KIH|SOUTH-SLAVEY KOH|SOUTH-SLAVEY KAH|CE|CAAI|CI|CII|CO|COO",
     "Y-CREE COO|CA|CAA|CWE|WEST-CREE CWE|CWI|WEST-CREE CWI|CWII|WEST-CREE CWII|CWO",
     "WEST-CREE CWO|CWOO|WEST-CREE CWOO|CWA|WEST-CREE CWA|CWAA|WEST-CREE CWAA|NASKAPI CWAA|C",
     "SAYISI TH|ME|MAAI|MI|MII|MO|MOO|Y-CREE MOO|MA|MAA|MWE|WEST-CREE MWE|MWI|WEST-CREE MWI|MWII",
     "WEST-CREE MWII|MWO|WEST-CREE MWO|MWOO|WEST-CREE MWOO|MWA|WEST-CREE MWA|MWAA|WEST-CREE MWAA",
     "NASKAPI MWAA|M|WEST-CREE M|MH|ATHAPASCAN M|SAYISI M|NE|NAAI|NI|NII|NO|NOO|Y-CREE NOO|NA",
     "NAA|NWE|WEST-CREE NWE|NWA|WEST-CREE NWA|NWAA|WEST-CREE NWAA|NASKAPI NWAA|N|CARRIER NG|NH",
     "LE|LAAI|LI|LII|LO|LOO|Y-CREE LOO|LA|LAA|LWE|WEST-CREE LWE|LWI|WEST-CREE LWI|LWII",
     "WEST-CREE LWII|LWO|WEST-CREE LWO|LWOO|WEST-CREE LWOO|LWA|WEST-CREE LWA|LWAA|WEST-CREE LWAA",
     "L|WEST-CREE L|MEDIAL L|SE|SAAI|SI|SII|SO|SOO|Y-CREE SOO|SA|SAA|SWE|WEST-CREE SWE|SWI",
     "WEST-CREE SWI|SWII|WEST-CREE SWII|SWO|WEST-CREE SWO|SWOO|WEST-CREE SWOO|SWA|WEST-CREE SWA",
     "SWAA|WEST-CREE SWAA|NASKAPI SWAA|S|ATHAPASCAN S|SW|BLACKFOOT S|MOOSE-CREE SK|NASKAPI SKW",
     "NASKAPI S-W|NASKAPI SPWA|NASKAPI STWA|NASKAPI SKWA|NASKAPI SCWA|SHE|SHI|SHII|SHO|SHOO|SHA",
     "SHAA|SHWE|WEST-CREE SHWE|SHWI|WEST-CREE SHWI|SHWII|WEST-CREE SHWII|SHWO|WEST-CREE SHWO",
     "SHWOO|WEST-CREE SHWOO|SHWA|WEST-CREE SHWA|SHWAA|WEST-CREE SHWAA|SH|YE|YAAI|YI|YII|YO|YOO",
     "Y-CREE YOO|YA|YAA|YWE|WEST-CREE YWE|YWI|WEST-CREE YWI|YWII|WEST-CREE YWII|YWO",
     "WEST-CREE YWO|YWOO|WEST-CREE YWOO|YWA|WEST-CREE YWA|YWAA|WEST-CREE YWAA|NASKAPI YWAA|Y",
     "BIBLE-CREE Y|WEST-CREE Y|SAYISI YI|RE|R-CREE RE|WEST-CREE LE|RAAI|RI|RII|RO|ROO",
     "WEST-CREE LO|RA|RAA|WEST-CREE LA|RWAA|WEST-CREE RWAA|R|WEST-CREE R|MEDIAL R|FE|FAAI|FI|FII",
     "FO|FOO|FA|FAA|FWAA|WEST-CREE FWAA|F|THE|N-CREE THE|THI|N-CREE THI|THII|N-CREE THII|THO",
     "THOO|THA|THAA|THWAA|WEST-CREE THWAA|TH|TTHE|TTHI|TTHO|TTHA|TTH|TYE|TYI|TYO|TYA|NUNAVIK HE",
     "NUNAVIK HI|NUNAVIK HII|NUNAVIK HO|NUNAVIK HOO|NUNAVIK HA|NUNAVIK HAA|NUNAVIK H|NUNAVUT H",
     "HK|QAAI|QI|QII|QO|QOO|QA|QAA|Q|TLHE|TLHI|TLHO|TLHA|WEST-CREE RE|WEST-CREE RI|WEST-CREE RO",
     "WEST-CREE RA|NGAAI|NGI|NGII|NGO|NGOO|NGA|NGAA|NG|NNG|SAYISI SHE|SAYISI SHI|SAYISI SHO",
     "SAYISI SHA|WOODS-CREE THE|WOODS-CREE THI|WOODS-CREE THO|WOODS-CREE THA|WOODS-CREE TH|LHI",
     "LHII|LHO|LHOO|LHA|LHAA|LH|TH-CREE THE|TH-CREE THI|TH-CREE THII|TH-CREE THO|TH-CREE THOO",
     "TH-CREE THA|TH-CREE THAA|TH-CREE TH|AIVILIK B"]⟩,
   ⟨0x15b0, "CANADIAN SYLLABICS BLACKFOOT ", ["E|I|O|A|WE|WI|WO|WA|NE|NI|NO|NA|KE|KI|KO|KA"]⟩,
   ⟨0x15c0, "CANADIAN SYLLABICS SAYISI H", ["E|I|O|A"]⟩,
   ⟨0x15c4, "CANADIAN SYLLABICS CARRIER ", ["GHU|GHO|GHE|GHEE|GHI|GHA|RU|RO|RE|REE|RI|RA|WU|WO",
     "WE|WEE|WI|WA|HWU|HWO|HWE|HWEE|HWI|HWA|THU|THO|THE|THEE|THI|THA|TTU|TTO|TTE|TTEE|TTI|TTA|PU",
     "PO|PE|PEE|PI|PA|P|GU|GO|GE|GEE|GI|GA|KHU|KHO|KHE|KHEE|KHI|KHA|KKU|KKO|KKE|KKEE|KKI|KKA|KK",
     "NU|NO|NE|NEE|NI|NA|MU|MO|ME|MEE|MI|MA|YU|YO|YE|YEE|YI|YA|JU"]⟩,
   ⟨0x1615, "CANADIAN SYLLABICS ", ["SAYISI JU|CARRIER JO|CARRIER JE|CARRIER JEE|CARRIER JI",
     "SAYISI JI"]⟩,
   ⟨0x161b, "CANADIAN SYLLABICS CARRIER ", ["JA|JJU|JJO|JJE|JJEE|JJI|JJA|LU|LO|LE|LEE|LI|LA|DLU",
     "DLO|DLE|DLEE|DLI|DLA|LHU|LHO|LHE|LHEE|LHI|LHA|TLHU|TLHO|TLHE|TLHEE|TLHI|TLHA|TLU|TLO|TLE",
     "TLEE|TLI|TLA|ZU|ZO|ZE|ZEE|ZI|ZA|Z|INITIAL Z|DZU|DZO|DZE|DZEE|DZI|DZA|SU|SO|SE|SEE|SI|SA",
     "SHU|SHO|SHE|SHEE|SHI|SHA|SH|TSU|TSO|TSE|TSEE|TSI|TSA|CHU|CHO|CHE|CHEE|CHI|CHA|TTSU|TTSO",
     "TTSE|TTSEE|TTSI|TTSA"]⟩,
   ⟨0x166d, "CANADIAN SYLLABICS ", ["CHI SIGN|FULL STOP|QAI|NGAI|NNGI|NNGII|NNGO|NNGOO|NNGA",
     "NNGAA"]⟩,
   ⟨0x1677, "CANADIAN SYLLABICS WOODS-CREE ", ["THWEE|THWI|THWII|THWO|THWOO|THWA|THWAA",
     "FINAL TH"]⟩,
   ⟨0x167f, "", ["CANADIAN SYLLABICS BLACKFOOT W|OGHAM SPACE MARK"]⟩,
   ⟨0x1681, "OGHAM LETTER ", ["BEITH|LUIS|FEARN|SAIL|NION|UATH|DAIR|TINNE|COLL|CEIRT|MUIN|GORT",
     "NGEADAL|STRAIF|RUIS|AILM|ONN|UR|EADHADH|IODHADH|EABHADH|OR|UILLEANN|IFIN|EAMHANCHOLL",
     "PEITH"]⟩,
   ⟨0x169b, "OGHAM ", ["FEATHER MARK|REVERSED FEATHER MARK"]⟩,
   ⟨0x16a0, "RUNIC LETTER ", ["FEHU FEOH FE F|V|URUZ UR U|YR|Y|W|THURISAZ THURS THORN|ETH",
     "ANSUZ A|OS O|AC A|AESC|LONG-BRANCH-OSS O|SHORT-TWIG-OSS O|O|OE|ON|RAIDO RAD REID R|KAUNA",
     "CEN|KAUN K|G|ENG|GEBO GYFU G|GAR|WUNJO WYNN W|HAGLAZ H|HAEGL H|LONG-BRANCH-HAGALL H",
     "SHORT-TWIG-HAGALL H|NAUDIZ NYD NAUD N|SHORT-TWIG-NAUD N|DOTTED-N|ISAZ IS ISS I|E|JERAN J",
     "GER|LONG-BRANCH-AR AE|SHORT-TWIG-AR A|IWAZ EOH|PERTHO PEORTH P|ALGIZ EOLHX|SOWILO S",
     "SIGEL LONG-BRANCH-SOL S|SHORT-TWIG-SOL S|C|Z|TIWAZ TIR TYR T|SHORT-TWIG-TYR T|D",
     "BERKANAN BEORC BJARKAN B|SHORT-TWIG-BJARKAN B|DOTTED-P|OPEN-P|EHWAZ EH E|MANNAZ MAN M",
     "LONG-BRANCH-MADR M|SHORT-TWIG-MADR M|LAUKAZ LAGU LOGR L|DOTTED-L|INGWAZ|ING|DAGAZ DAEG D",
     "OTHALAN ETHEL O|EAR|IOR|CWEORTH|CALC|CEALC|STAN|LONG-BRANCH-YR|SHORT-TWIG-YR|ICELANDIC-YR",
     "Q|X"]⟩,
   ⟨0x16eb, "RUNIC ", ["SINGLE PUNCTUATION|MULTIPLE PUNCTUATION|CROSS PUNCTUATION|ARLAUG SYMBOL",
     "TVIMADUR SYMBOL|BELGTHOR SYMBOL|LETTER K|LETTER SH|LETTER OO"]⟩,
   ⟨0x16f4, "RUNIC LETTER FRANKS CASKET ", ["OS|IS|EH|AC|AESC"]⟩,
   ⟨0x1700, "TAGALOG LETTER ", ["A|I|U|KA|GA|NGA|TA|DA|NA|PA|BA|MA|YA|RA|LA|WA|SA|HA"]⟩,
   ⟨0x1712, "TAGALOG ", ["VOWEL SIGN I|VOWEL SIGN U|SIGN VIRAMA|SIGN PAMUDPOD"]⟩,
   ⟨0x171f, "TAGALOG LETTER ARCHAIC RA", [""]⟩,
   ⟨0x1720, "HANUNOO LETTER ", ["A|I|U|KA|GA|NGA|TA|DA|NA|PA|BA|MA|YA|RA|LA|WA|SA|HA"]⟩,
   ⟨0x1732, "HANUNOO ", ["VOWEL SIGN I|VOWEL SIGN U|SIGN PAMUDPOD"]⟩,
   ⟨0x1735, "PHILIPPINE ", ["SINGLE PUNCTUATION|DOUBLE PUNCTUATION"]⟩,
   ⟨0x1740, "BUHID LETTER ", ["A|I|U|KA|GA|NGA|TA|DA|NA|PA|BA|MA|YA|RA|LA|WA|SA|HA"]⟩,
   ⟨0x1752, "BUHID VOWEL SIGN ", ["I|U"]⟩,
   ⟨0x1760, "TAGBANWA LETTER ", ["A|I|U|KA|GA|NGA|TA|DA|NA|PA|BA|MA|YA"]⟩,
   ⟨0x176e, "TAGBANWA LETTER ", ["LA|WA|SA"]⟩,
   ⟨0x1772, "TAGBANWA VOWEL SIGN ", ["I|U"]⟩,
   ⟨0x1780, "KHMER LETTER ", ["KA|KHA|KO|KHO|NGO|CA|CHA|CO|CHO|NYO|DA|TTHA|DO|TTHO|NNO|TA|THA|TO",
     "THO|NO|BA|PHA|PO|PHO|MO|YO|RO|LO|VO|SHA|SSO|SA|HA|LA|QA"]⟩,
   ⟨0x17a3, "KHMER INDEPENDENT VOWEL ", ["QAQ|QAA|QI|QII|QU|QUK|QUU|QUUV|RY|RYY|LY|LYY|QE|QAI",
     "QOO TYPE ONE|QOO TYPE TWO|QAU"]⟩,
   ⟨0x17b4, "KHMER VOWEL INHERENT A", ["Q|A"]⟩,
   ⟨0x17b6, "KHMER VOWEL SIGN ", ["AA|I|II|Y|YY|U|UU|UA|OE|YA|IE|E|AE|AI|OO|AU"]⟩,
   ⟨0x17c6, "KHMER SIGN ", ["NIKAHIT|REAHMUK|YUUKALEAPINTU|MUUSIKATOAN|TRIISAP|BANTOC|ROBAT",
     "TOANDAKHIAT|KAKABAT|AHSDA|SAMYOK SANNYA|VIRIAM|COENG|BATHAMASAT|KHAN|BARIYOOSAN",
     "CAMNUC PII KUUH|LEK TOO|BEYYAL|PHNAEK MUAN|KOOMUUT"]⟩,
   ⟨0x17db, "KHMER ", ["CURRENCY SYMBOL RIEL|SIGN AVAKRAHASANYA|SIGN ATTHACAN"]⟩,
   ⟨0x17e0, "KHMER DIGIT ", ["ZERO|ONE|TWO|THREE|FOUR|FIVE|SIX|SEVEN|EIGHT|NINE"]⟩,
   ⟨0x17f0, "KHMER SYMBOL LEK ATTAK ", ["SON|MUOY|PII|BEI|BUON|PRAM|PRAM-MUOY|PRAM-PII|PRAM-BEI",
     "PRAM-BUON"]⟩,
   ⟨0x1800, "MONGOLIAN ", ["BIRGA|ELLIPSIS|COMMA|FULL STOP|COLON|FOUR DOTS|TODO SOFT HYPHEN",
     "SIBE SYLLABLE BOUNDARY MARKER|MANCHU COMMA|MANCHU FULL STOP|NIRUGU",
     "FREE VARIATION SELECTOR ONE|FREE VARIATION SELECTOR TWO|FREE VARIATION SELECTOR THREE",
     "VOWEL SEPARATOR|FREE VARIATION SELECTOR FOUR"]⟩,
   ⟨0x1810, "MONGOLIAN DIGIT ", ["ZERO|ONE|TWO|THREE|FOUR|FIVE|SIX|SEVEN|EIGHT|NINE"]⟩,
   ⟨0x1820, "MONGOLIAN LETTER ", ["A|E|I|O|U|OE|UE|EE|NA|ANG|BA|PA|QA|GA|MA|LA|SA|SHA|TA|DA|CHA",
     "JA|YA|RA|WA|FA|KA|KHA|TSA|ZA|HAA|ZRA|LHA|ZHI|CHI"]⟩,
   ⟨0x1843, "MONGOLIAN LETTER TODO ", ["LONG VOWEL SIGN|E|I|O|U|OE|UE|ANG|BA|PA|QA|GA|MA|TA|DA",
     "CHA|JA|TSA|YA|WA|KA|GAA|HAA|JIA|NIA|DZA"]⟩,
   ⟨0x185d, "MONGOLIAN LETTER SIBE ", ["E|I|IY|UE|U|ANG|KA|GA|HA|PA|SHA|TA|DA|JA|FA|GAA|HAA|TSA",
     "ZA|RAA|CHA|ZHA"]⟩,
   ⟨0x1873, "MONGOLIAN LETTER ", ["MANCHU I|MANCHU KA|MANCHU RA|MANCHU FA|MANCHU ZHA",
     "CHA WITH TWO DOTS"]⟩,
   ⟨0x1880, "MONGOLIAN LETTER ALI GALI ", ["ANUSVARA ONE|VISARGA ONE|DAMARU|UBADAMA",
     "INVERTED UBADAMA|BALUDA|THREE BALUDA|A|I|KA|NGA|CA|TTA|TTHA|DDA|NNA|TA|DA|PA|PHA|SSA|ZHA",
     "ZA|AH"]⟩,
   ⟨0x1898, "MONGOLIAN LETTER TODO ALI GALI ", ["TA|ZHA"]⟩,
   ⟨0x189a, "MONGOLIAN LETTER MANCHU ALI GALI ", ["GHA|NGA|CA|JHA|TTA|DDHA|TA|DHA|SSA|CYA|ZHA",
     "ZA"]⟩,
   ⟨0x18a6, "MONGOLIAN LETTER ", ["ALI GALI HALF U|ALI GALI HALF YA|MANCHU ALI GALI BHA",
     "ALI GALI DAGALGA|MANCHU ALI GALI LHA"]⟩,
   ⟨0x18b0, "CANADIAN SYLLABICS ", ["OY|AY|AAY|WAY|POY|PAY|PWOY|TAY|KAY|KWAY|MAY|NOY|NAY|LAY|SOY",
     "SAY|SHOY|SHAY|SHWOY|YOY|YAY|RAY|NWI|OJIBWAY NWI|NWII|OJIBWAY NWII|NWO|OJIBWAY NWO|NWOO",
     "OJIBWAY NWOO|RWEE|RWI|RWII|RWO|RWOO|RWA|OJIBWAY P|OJIBWAY T|OJIBWAY K|OJIBWAY C|OJIBWAY M",
     "OJIBWAY N|OJIBWAY S|OJIBWAY SH|EASTERN W|WESTERN W|FINAL SMALL RING|FINAL RAISED DOT",
     "R-CREE RWE|WEST-CREE LOO|WEST-CREE LAA|THWE|THWA|TTHWE|TTHOO|TTHAA|TLHWE|TLHOO|SAYISI SHWE",
     "SAYISI SHOO|SAYISI HOO|CARRIER GWU|CARRIER DENE GEE|CARRIER GAA|CARRIER GWA|SAYISI JUU",
     "CARRIER JWA|BEAVER DENE L|BEAVER DENE R|CARRIER DENTAL S"]⟩,
   ⟨0x1900, "LIMBU VOWEL-CARRIER LETTER", [""]⟩,
   ⟨0x1901, "LIMBU LETTER ", ["KA|KHA|GA|GHA|NGA|CA|CHA|JA|JHA|YAN|TA|THA|DA|DHA|NA|PA|PHA|BA",
     "BHA|MA|YA|RA|LA|WA|SHA|SSA|SA|HA|GYAN|TRA"]⟩,
   ⟨0x1920, "LIMBU VOWEL SIGN ", ["A|I|U|EE|AI|OO|AU|E|O"]⟩,
   ⟨0x1929, "LIMBU SUBJOINED LETTER ", ["YA|RA|WA"]⟩,
   ⟨0x1930, "LIMBU SMALL LETTER ", ["KA|NGA|ANUSVARA|TA|NA|PA|MA|RA|LA"]⟩,
   ⟨0x1939, "LIMBU SIGN ", ["MUKPHRENG|KEMPHRENG|SA-I"]⟩,
   ⟨0x1940, "LIMBU SIGN LOO", [""]⟩,
   ⟨0x1944, "LIMBU ", ["EXCLAMATION MARK|QUESTION MARK"]⟩,
   ⟨0x1946, "LIMBU DIGIT ", ["ZERO|ONE|TWO|THREE|FOUR|FIVE|SIX|SEVEN|EIGHT|NINE"]⟩,
   ⟨0x1950, "TAI LE LETTER ", ["KA|XA|NGA|TSA|SA|YA|TA|THA|LA|PA|PHA|MA|FA|VA|HA|QA|KHA|TSHA|NA",
     "A|I|EE|EH|U|OO|O|UE|E|AUE|AI"]⟩,
   ⟨0x1970, "TAI LE LETTER TONE-", ["2|3|4|5|6"]⟩,
   ⟨0x1980, "NEW TAI LUE LETTER ", ["HIGH QA|LOW QA|HIGH KA|HIGH XA|HIGH NGA|LOW KA|LOW XA",
     "LOW NGA|HIGH TSA|HIGH SA|HIGH YA|LOW TSA|LOW SA|LOW YA|HIGH TA|HIGH THA|HIGH NA|LOW TA",
     "LOW THA|LOW NA|HIGH PA|HIGH PHA|HIGH MA|LOW PA|LOW PHA|LOW MA|HIGH FA|HIGH VA|HIGH LA",
     "LOW FA|LOW VA|LOW LA|HIGH HA|HIGH DA|HIGH BA|LOW HA|LOW DA|LOW BA|HIGH KVA|HIGH XVA",
     "LOW KVA|LOW XVA|HIGH SUA|LOW SUA"]⟩,
   ⟨0x19b0, "NEW TAI LUE VOWEL SIGN ", ["VOWEL SHORTENER|AA|II|U|UU|E|AE|O|OA|UE|AY|AAY|UY|OY",
     "OAY|UEY|IY"]⟩,
   ⟨0x19c1, "NEW TAI LUE LETTER FINAL ", ["V|NG|N|M|K|D|B"]⟩,
   ⟨0x19c8, "NEW TAI LUE TONE MARK-", ["1|2"]⟩,
   ⟨0x19d0, "NEW TAI LUE DIGIT ", ["ZERO|ONE|TWO|THREE|FOUR|FIVE|SIX|SEVEN|EIGHT|NINE"]⟩,
   ⟨0x19da, "NEW TAI LUE THAM DIGIT ONE", [""]⟩,
   ⟨0x19de, "NEW TAI LUE SIGN LAE", ["|V"]⟩,
   ⟨0x19e0, "KHMER SYMBOL ", ["PATHAMASAT|MUOY KOET|PII KOET|BEI KOET|BUON KOET|PRAM KOET",
     "PRAM-MUOY KOET|PRAM-PII KOET|PRAM-BEI KOET|PRAM-BUON KOET|DAP KOET|DAP-MUOY KOET",
     "DAP-PII KOET|DAP-BEI KOET|DAP-BUON KOET|DAP-PRAM KOET|TUTEYASAT|MUOY ROC|PII ROC|BEI ROC",
     "BUON ROC|PRAM ROC|PRAM-MUOY ROC|PRAM-PII ROC|PRAM-BEI ROC|PRAM-BUON ROC|DAP ROC",
     "DAP-MUOY ROC|DAP-PII ROC|DAP-BEI ROC|DAP-BUON ROC|DAP-PRAM ROC"]⟩,
   ⟨0x1a00, "BUGINESE LETTER ", ["KA|GA|NGA|NGKA|PA|BA|MA|MPA|TA|DA|NA|NRA|CA|JA|NYA|NYCA|YA|RA",
     "LA|VA|SA|A|HA"]⟩,
   ⟨0x1a17, "BUGINESE VOWEL SIGN ", ["I|U|E|O|AE"]⟩,
   ⟨0x1a1e, "BUGINESE ", ["PALLAWA|END OF SECTION"]⟩,
   ⟨0x1a20, "TAI THAM LETTER ", ["HIGH KA|HIGH KHA|HIGH KXA|LOW KA|LOW KXA|LOW KHA|NGA|HIGH CA",
     "HIGH CHA|LOW CA|LOW SA|LOW CHA|NYA|RATA|HIGH RATHA|DA|LOW RATHA|RANA|HIGH TA|HIGH THA",
     "LOW TA|LOW THA|NA|BA|HIGH PA|HIGH PHA|HIGH FA|LOW PA|LOW FA|LOW PHA|MA|LOW YA|HIGH YA|RA",
     "RUE|LA|LUE|WA|HIGH SHA|HIGH SSA|HIGH SA|HIGH HA|LLA|A|LOW HA|I|II|U|UU|EE|OO|LAE",
     "GREAT SA"]⟩,
   ⟨0x1a55, "TAI THAM CONSONANT SIGN ", ["MEDIAL RA|MEDIAL LA|LA TANG LAI"]⟩,
   ⟨0x1a58, "TAI THAM SIGN MAI KANG LAI", [""]⟩,
   ⟨0x1a59, "TAI THAM CONSONANT SIGN ", ["FINAL NGA|LOW PA|HIGH RATHA OR LOW PA|MA|BA|SA"]⟩,
   ⟨0x1a60, "TAI THAM SIGN SAKOT", [""]⟩,
   ⟨0x1a61, "TAI THAM VOWEL SIGN ", ["A|MAI SAT|AA|TALL AA|I|II|UE|UUE|U|UU|O|OA BELOW|OY|E|AE",
     "OO|AI|THAM AI|OA ABOVE"]⟩,
   ⟨0x1a74, "TAI THAM SIGN ", ["MAI KANG|TONE-1|TONE-2|KHUEN TONE-3|KHUEN TONE-4|KHUEN TONE-5",
     "RA HAAM|MAI SAM|KHUEN-LUE KARAN"]⟩,
   ⟨0x1a7f, "TAI THAM COMBINING CRYPTOGRAMMIC DOT", [""]⟩,
   ⟨0x1a80, "TAI THAM HORA DIGIT ", ["ZERO|ONE|TWO|THREE|FOUR|FIVE|SIX|SEVEN|EIGHT|NINE"]⟩,
   ⟨0x1a90, "TAI THAM THAM DIGIT ", ["ZERO|ONE|TWO|THREE|FOUR|FIVE|SIX|SEVEN|EIGHT|NINE"]⟩,
   ⟨0x1aa0, "TAI THAM SIGN ", ["WIANG|WIANGWAAK|SAWAN|KEOW|HOY|DOKMAI|REVERSED ROTATED RANA",
     "MAI YAMOK|KAAN|KAANKUU|SATKAAN|SATKAANKUU|HANG|CAANG"]⟩,
   ⟨0x1ab0, "COMBINING ", ["DOUBLED CIRCUMFLEX ACCENT|DIAERESIS-RING|INFINITY|DOWNWARDS ARROW",
     "TRIPLE DOT|X-X BELOW|WIGGLY LINE BELOW|OPEN MARK BELOW|DOUBLE OPEN MARK BELOW",
     "LIGHT CENTRALIZATION STROKE BELOW|STRONG CENTRALIZATION STROKE BELOW|PARENTHESES ABOVE",
     "DOUBLE PARENTHESES ABOVE|PARENTHESES BELOW|PARENTHESES OVERLAY|LATIN SMALL LETTER W BELOW",
     "LATIN SMALL LETTER TURNED W BELOW|LEFT PARENTHESIS ABOVE LEFT",
     "RIGHT PARENTHESIS ABOVE RIGHT|LEFT PARENTHESIS BELOW LEFT|RIGHT PARENTHESIS BELOW RIGHT",
     "SQUARE BRACKETS ABOVE|NUMBER SIGN ABOVE|INVERTED DOUBLE ARCH ABOVE|PLUS SIGN ABOVE",
     "DOUBLE PLUS SIGN ABOVE|DOUBLE PLUS SIGN BELOW|TRIPLE ACUTE ACCENT"]⟩,
   ⟨0x1acc, "COMBINING LATIN SMALL LETTER INSULAR ", ["G|R|T"]⟩,
   ⟨0x1b00, "BALINESE SIGN ", ["ULU RICEM|ULU CANDRA|CECEK|SURANG|BISAH"]⟩,
   ⟨0x1b05, "BALINESE LETTER ", ["AKARA|AKARA TEDUNG|IKARA|IKARA TEDUNG|UKARA|UKARA TEDUNG",
     "RA REPA|RA REPA TEDUNG|LA LENGA|LA LENGA TEDUNG|EKARA|AIKARA|OKARA|OKARA TEDUNG|KA",
     "KA MAHAPRANA|GA|GA GORA|NGA|CA|CA LACA|JA|JA JERA|NYA|TA LATIK|TA MURDA MAHAPRANA",
     "DA MURDA ALPAPRANA|DA MURDA MAHAPRANA|NA RAMBAT|TA|TA TAWA|DA|DA MADU|NA|PA|PA KAPAL|BA",
     "BA KEMBANG|MA|YA|RA|LA|WA|SA SAGA|SA SAPA|SA|HA"]⟩,
   ⟨0x1b34, "BALINESE SIGN REREKAN", [""]⟩,
   ⟨0x1b35, "BALINESE VOWEL SIGN ", ["TEDUNG|ULU|ULU SARI|SUKU|SUKU ILUT|RA REPA|RA REPA TEDUNG",
     "LA LENGA|LA LENGA TEDUNG|TALING|TALING REPA|TALING TEDUNG|TALING REPA TEDUNG|PEPET",
     "PEPET TEDUNG"]⟩,
   ⟨0x1b44, "BALINESE ADEG ADEG", [""]⟩,
   ⟨0x1b45, "BALINESE LETTER ", ["KAF SASAK|KHOT SASAK|TZIR SASAK|EF SASAK|VE SASAK|ZAL SASAK",
     "ASYURA SASAK|ARCHAIC JNYA"]⟩,
   ⟨0x1b50, "BALINESE DIGIT ", ["ZERO|ONE|TWO|THREE|FOUR|FIVE|SIX|SEVEN|EIGHT|NINE"]⟩,
   ⟨0x1b5a, "BALINESE ", ["PANTI|PAMADA|WINDU|CARIK PAMUNGKAH|CARIK SIKI|CARIK PAREREN",
     "PAMENENG"]⟩,
   ⟨0x1b61, "BALINESE MUSICAL SYMBOL D", ["ONG|ENG|UNG|ANG|ANG SURANG|ING|AENG|EUNG|AING",
     "ANG GEDE"]⟩,
   ⟨0x1b6b, "BALINESE MUSICAL SYMBOL COMBINING ", ["TEGEH|ENDEP|KEMPUL|KEMPLI|JEGOGAN",
     "KEMPUL WITH JEGOGAN|KEMPLI WITH JEGOGAN|BENDE|GONG"]⟩,
   ⟨0x1b74, "BALINESE MUSICAL SYMBOL RIGHT-HAND ", ["OPEN DUG|OPEN DAG|CLOSED TUK|CLOSED TAK"]⟩,
   ⟨0x1b78, "BALINESE MUSICAL SYMBOL LEFT-HAND ", ["OPEN PANG|OPEN PUNG|CLOSED PLAK|CLOSED PLUK",
     "OPEN PING"]⟩,
   ⟨0x1b7d, "BALINESE PA", ["NTI LANTANG|MADA LANTANG"]⟩,
   ⟨0x1b80, "SUNDANESE SIGN PAN", ["YECEK|GLAYAR|GWISAD"]⟩,
   ⟨0x1b83, "SUNDANESE LETTER ", ["A|I|U|AE|O|E|EU|KA|QA|GA|NGA|CA|JA|ZA|NYA|TA|DA|NA|PA|FA|VA",
     "BA|MA|YA|RA|LA|WA|SA|XA|HA"]⟩,
   ⟨0x1ba1, "SUNDANESE CONSONANT SIGN PA", ["MINGKAL|NYAKRA|NYIKU"]⟩,
   ⟨0x1ba4, "SUNDANESE VOWEL SIGN PA", ["NGHULU|NYUKU|NAELAENG|NOLONG|MEPET|NEULEUNG"]⟩,
   ⟨0x1baa, "SUNDANESE ", ["SIGN PAMAAEH|SIGN VIRAMA|CONSONANT SIGN PASANGAN MA",
     "CONSONANT SIGN PASANGAN WA|LETTER KHA|LETTER SYA"]⟩,
   ⟨0x1bb0, "SUNDANESE DIGIT ", ["ZERO|ONE|TWO|THREE|FOUR|FIVE|SIX|SEVEN|EIGHT|NINE"]⟩,
   ⟨0x1bba, "SUNDANESE AVAGRAHA", [""]⟩,
   ⟨0x1bbb, "SUNDANESE LETTER ", ["REU|LEU|BHA|FINAL K|FINAL M"]⟩,
   ⟨0x1bc0, "BATAK LETTER ", ["A|SIMALUNGUN A|HA|SIMALUNGUN HA|MANDAILING HA|BA|KARO BA|PA",
     "SIMALUNGUN PA|NA|MANDAILING NA|WA|SIMALUNGUN WA|PAKPAK WA|GA|SIMALUNGUN GA|JA|DA|RA",
     "SIMALUNGUN RA|MA|SIMALUNGUN MA|SOUTHERN TA|NORTHERN TA|SA|SIMALUNGUN SA|MANDAILING SA|YA",
     "SIMALUNGUN YA|NGA|LA|SIMALUNGUN LA|NYA|CA|NDA|MBA|I|U"]⟩,
   ⟨0x1be6, "BATAK SIGN TOMPI", [""]⟩,
   ⟨0x1be7, "BATAK VOWEL SIGN ", ["E|PAKPAK E|EE|I|KARO I|O|KARO O|U|U FOR SIMALUNGUN SA"]⟩,
   ⟨0x1bf0, "BATAK ", ["CONSONANT SIGN NG|CONSONANT SIGN H|PANGOLAT|PANONGONAN"]⟩,
   ⟨0x1bfc, "BATAK SYMBOL BINDU ", ["NA METEK|PINARBORAS|JUDUL|PANGOLAT"]⟩,
   ⟨0x1c00, "LEPCHA LETTER ", ["KA|KLA|KHA|GA|GLA|NGA|CA|CHA|JA|NYA|TA|THA|DA|NA|PA|PLA|PHA|FA",
     "FLA|BA|BLA|MA|MLA|TSA|TSHA|DZA|YA|RA|LA|HA|HLA|VA|SA|SHA|WA|A"]⟩,
   ⟨0x1c24, "LEPCHA SUBJOINED LETTER ", ["YA|RA"]⟩,
   ⟨0x1c26, "LEPCHA VOWEL SIGN ", ["AA|I|O|OO|U|UU|E"]⟩,
   ⟨0x1c2d, "LEPCHA CONSONANT SIGN ", ["K|M|L|N|P|R|T|NYIN-DO|KANG"]⟩,
   ⟨0x1c36, "LEPCHA SIGN ", ["RAN|NUKTA"]⟩,
   ⟨0x1c3b, "LEPCHA PUNCTUATION ", ["TA-ROL|NYET THYOOM TA-ROL|CER-WA|TSHOOK CER-WA|TSHOOK"]⟩,
   ⟨0x1c40, "LEPCHA DIGIT ", ["ZERO|ONE|TWO|THREE|FOUR|FIVE|SIX|SEVEN|EIGHT|NINE"]⟩,
   ⟨0x1c4d, "LEPCHA LETTER ", ["TTA|TTHA|DDA"]⟩,
   ⟨0x1c50, "OL CHIKI DIGIT ", ["ZERO|ONE|TWO|THREE|FOUR|FIVE|SIX|SEVEN|EIGHT|NINE"]⟩,
   ⟨0x1c5a, "OL CHIKI LETTER ", ["LA|AT|AG|ANG|AL|LAA|AAK|AAJ|AAM|AAW|LI|IS|IH|INY|IR|LU|UC|UD",
     "UNN|UY|LE|EP|EDD|EN|ERR|LO|OTT|OB|OV|OH"]⟩,
   ⟨0x1c78, "OL CHIKI ", ["MU TTUDDAG|GAAHLAA TTUDDAAG|MU-GAAHLAA TTUDDAAG|RELAA|PHAARKAA|AHAD",
     "PUNCTUATION MUCAAD|PUNCTUATION DOUBLE MUCAAD"]⟩,
   ⟨0x1c80, "CYRILLIC SMALL LETTER ", ["ROUNDED VE|LONG-LEGGED DE|NARROW O|WIDE ES|TALL TE",
     "THREE-LEGGED TE|TALL HARD SIGN|TALL YAT|UNBLENDED UK"]⟩,
   ⟨0x1c90, "GEORGIAN MTAVRULI CAPITAL LETTER ", ["AN|BAN|GAN|DON|EN|VIN|ZEN|TAN|IN|KAN|LAS|MAN",
     "NAR|ON|PAR|ZHAR|RAE|SAN|TAR|UN|PHAR|KHAR|GHAN|QAR|SHIN|CHIN|CAN|JIL|CIL|CHAR|XAN|JHAN|HAE",
     "HE|HIE|WE|HAR|HOE|FI|YN|ELIFI|TURNED GAN|AIN"]⟩,
   ⟨0x1cbd, "GEORGIAN MTAVRULI CAPITAL LETTER ", ["AEN|HARD SIGN|LABIAL SIGN"]⟩,
   ⟨0x1cc0, "SUNDANESE PUNCTUATION BINDU ", ["SURYA|PANGLONG|PURNAMA|CAKRA|LEU SATANGA",
     "KA SATANGA|DA SATANGA|BA SATANGA"]⟩,
   ⟨0x1cd0, "VEDIC ", ["TONE KARSHANA|TONE SHARA|TONE PRENKHA|SIGN NIHSHVASA",
     "SIGN YAJURVEDIC MIDLINE SVARITA"]⟩,
   ⟨0x1cd5, "VEDIC TONE ", ["YAJURVEDIC AGGRAVATED INDEPENDENT SVARITA",
     "YAJURVEDIC INDEPENDENT SVARITA|YAJURVEDIC KATHAKA INDEPENDENT SVARITA|CANDRA BELOW",
     "YAJURVEDIC KATHAKA INDEPENDENT SVARITA SCHROEDER|DOUBLE SVARITA|TRIPLE SVARITA",
     "KATHAKA ANUDATTA|DOT BELOW|TWO DOTS BELOW|THREE DOTS BELOW",
     "RIGVEDIC KASHMIRI INDEPENDENT SVARITA|ATHARVAVEDIC INDEPENDENT SVARITA"]⟩,
   ⟨0x1ce2, "VEDIC SIGN ", ["VISARGA SVARITA|VISARGA UDATTA|REVERSED VISARGA UDATTA",
     "VISARGA ANUDATTA|REVERSED VISARGA ANUDATTA|VISARGA UDATTA WITH TAIL",
     "VISARGA ANUDATTA WITH TAIL|ANUSVARA ANTARGOMUKHA|ANUSVARA BAHIRGOMUKHA",
     "ANUSVARA VAMAGOMUKHA|ANUSVARA VAMAGOMUKHA WITH TAIL|TIRYAK|HEXIFORM LONG ANUSVARA",
     "LONG ANUSVARA|RTHANG LONG ANUSVARA|ANUSVARA UBHAYATO MUKHA|ARDHAVISARGA",
     "ROTATED ARDHAVISARGA"]⟩,
   ⟨0x1cf4, "VEDIC ", ["TONE CANDRA ABOVE|SIGN JIHVAMULIYA|SIGN UPADHMANIYA|SIGN ATIKRAMA",
     "TONE RING ABOVE|TONE DOUBLE RING ABOVE|SIGN DOUBLE ANUSVARA ANTARGOMUKHA"]⟩,
   ⟨0x1d00, "LATIN ", ["LETTER SMALL CAPITAL A|LETTER SMALL CAPITAL AE|SMALL LETTER TURNED AE"]⟩,
   ⟨0x1d03, "LATIN LETTER SMALL CAPITAL ", ["BARRED B|C|D|ETH|E"]⟩,
   ⟨0x1d08, "LATIN SMALL LETTER TURNED ", ["OPEN E|I"]⟩,
   ⟨0x1d0a, "LATIN LETTER SMALL CAPITAL ", ["J|K|L WITH STROKE|M|REVERSED N|O|OPEN O"]⟩,
   ⟨0x1d11, "LATIN SMALL LETTER SIDEWAYS O", ["|PEN O| WITH STROKE"]⟩,
   ⟨0x1d14, "LATIN ", ["SMALL LETTER TURNED OE|LETTER SMALL CAPITAL OU|SMALL LETTER TOP HALF O",
     "SMALL LETTER BOTTOM HALF O"]⟩,
   ⟨0x1d18, "LATIN LETTER SMALL CAPITAL ", ["P|REVERSED R|TURNED R|T|U"]⟩,
   ⟨0x1d1d, "LATIN SMALL LETTER SIDEWAYS ", ["U|DIAERESIZED U|TURNED M"]⟩,
   ⟨0x1d20, "LATIN LETTER SMALL CAPITAL ", ["V|W|Z|EZH"]⟩,
   ⟨0x1d24, "LATIN LETTER ", ["VOICED LARYNGEAL SPIRANT|AIN"]⟩,
   ⟨0x1d26, "GREEK LETTER SMALL CAPITAL ", ["GAMMA|LAMDA|PI|RHO|PSI"]⟩,
   ⟨0x1d2b, "CYRILLIC LETTER SMALL CAPITAL EL", [""]⟩,
   ⟨0x1d2c, "MODIFIER LETTER CAPITAL ", ["A|AE|B|BARRED B|D|E|REVERSED E|G|H|I|J|K|L|M|N",
     "REVERSED N|O|OU|P|R|T|U|W"]⟩,
   ⟨0x1d43, "MODIFIER LETTER SMALL ", ["A|TURNED A|ALPHA|TURNED AE|B|D|E|SCHWA|OPEN E",
     "TURNED OPEN E|G|TURNED I|K|M|ENG|O|OPEN O|TOP HALF O|BOTTOM HALF O|P|T|U|SIDEWAYS U",
     "TURNED M|V|AIN|BETA|GREEK GAMMA|DELTA|GREEK PHI|CHI"]⟩,
   ⟨0x1d62, "LATIN SUBSCRIPT SMALL LETTER ", ["I|R|U|V"]⟩,
   ⟨0x1d66, "GREEK SUBSCRIPT SMALL LETTER ", ["BETA|GAMMA|RHO|PHI|CHI"]⟩,
   ⟨0x1d6b, "LATIN SMALL LETTER ", ["UE|B WITH MIDDLE TILDE|D WITH MIDDLE TILDE",
     "F WITH MIDDLE TILDE|M WITH MIDDLE TILDE|N WITH MIDDLE TILDE|P WITH MIDDLE TILDE",
     "R WITH MIDDLE TILDE|R WITH FISHHOOK AND MIDDLE TILDE|S WITH MIDDLE TILDE",
     "T WITH MIDDLE TILDE|Z WITH MIDDLE TILDE|TURNED G"]⟩,
   ⟨0x1d78, "MODIFIER LETTER CYRILLIC EN", [""]⟩,
   ⟨0x1d79, "LATIN SMALL ", ["LETTER INSULAR G|LETTER TH WITH STRIKETHROUGH",
     "CAPITAL LETTER I WITH STROKE|LETTER IOTA WITH STROKE|LETTER P WITH STROKE",
     "CAPITAL LETTER U WITH STROKE"]⟩,
   ⟨0x1d7f, "LATIN SMALL LETTER ", ["UPSILON WITH STROKE|B WITH PALATAL HOOK|D WITH PALATAL HOOK",
     "F WITH PALATAL HOOK|G WITH PALATAL HOOK|K WITH PALATAL HOOK|L WITH PALATAL HOOK",
     "M WITH PALATAL HOOK|N WITH PALATAL HOOK|P WITH PALATAL HOOK|R WITH PALATAL HOOK",
     "S WITH PALATAL HOOK|ESH WITH PALATAL HOOK|V WITH PALATAL HOOK|X WITH PALATAL HOOK",
     "Z WITH PALATAL HOOK|A WITH RETROFLEX HOOK|ALPHA WITH RETROFLEX HOOK|D WITH HOOK AND TAIL",
     "E WITH RETROFLEX HOOK|OPEN E WITH RETROFLEX HOOK|REVERSED OPEN E WITH RETROFLEX HOOK",
     "SCHWA WITH RETROFLEX HOOK|I WITH RETROFLEX HOOK|OPEN O WITH RETROFLEX HOOK",
     "ESH WITH RETROFLEX HOOK|U WITH RETROFLEX HOOK|EZH WITH RETROFLEX HOOK"]⟩,
   ⟨0x1d9b, "MODIFIER LETTER SMALL ", ["TURNED ALPHA|C|C WITH CURL|ETH|REVERSED OPEN E|F",
     "DOTLESS J WITH STROKE|SCRIPT G|TURNED H|I WITH STROKE|IOTA|CAPITAL I|CAPITAL I WITH STROKE",
     "J WITH CROSSED-TAIL|L WITH RETROFLEX HOOK|L WITH PALATAL HOOK|CAPITAL L|M WITH HOOK",
     "TURNED M WITH LONG LEG|N WITH LEFT HOOK|N WITH RETROFLEX HOOK|CAPITAL N|BARRED O|PHI",
     "S WITH HOOK|ESH|T WITH PALATAL HOOK|U BAR|UPSILON|CAPITAL U|V WITH HOOK|TURNED V|Z",
     "Z WITH RETROFLEX HOOK|Z WITH CURL|EZH|THETA"]⟩,
   ⟨0x1dc0, "COMBINING ", ["DOTTED GRAVE ACCENT|DOTTED ACUTE ACCENT|SNAKE BELOW|SUSPENSION MARK",
     "MACRON-ACUTE|GRAVE-MACRON|MACRON-GRAVE|ACUTE-MACRON|GRAVE-ACUTE-GRAVE|ACUTE-GRAVE-ACUTE",
     "LATIN SMALL LETTER R BELOW|BREVE-MACRON|MACRON-BREVE|DOUBLE CIRCUMFLEX ABOVE|OGONEK ABOVE",
     "ZIGZAG BELOW|IS BELOW|UR ABOVE|US ABOVE"]⟩,
   ⟨0x1dd3, "COMBINING LATIN SMALL LETTER ", ["FLATTENED OPEN A ABOVE|AE|AO|AV|C CEDILLA",
     "INSULAR D|ETH|G"]⟩,
   ⟨0x1ddb, "COMBINING LATIN ", ["LETTER SMALL CAPITAL G|SMALL LETTER K|SMALL LETTER L",
     "LETTER SMALL CAPITAL L|LETTER SMALL CAPITAL M|SMALL LETTER N|LETTER SMALL CAPITAL N",
     "LETTER SMALL CAPITAL R"]⟩,
   ⟨0x1de3, "COMBINING LATIN SMALL LETTER ", ["R ROTUNDA|S|LONG S|Z|ALPHA|B|BETA|SCHWA|F",
     "L WITH DOUBLE MIDDLE TILDE|O WITH LIGHT CENTRALIZATION STROKE|P|ESH",
     "U WITH LIGHT CENTRALIZATION STROKE|W|A WITH DIAERESIS|O WITH DIAERESIS|U WITH DIAERESIS"]⟩,
   ⟨0x1df5, "COMBINING ", ["UP TACK ABOVE|KAVYKA ABOVE RIGHT|KAVYKA ABOVE LEFT|DOT ABOVE LEFT",
     "WIDE INVERTED BRIDGE BELOW|DOT BELOW LEFT|DELETION MARK|DOUBLE INVERTED BREVE BELOW",
     "ALMOST EQUAL TO BELOW|LEFT ARROWHEAD ABOVE|RIGHT ARROWHEAD AND DOWN ARROWHEAD BELOW"]⟩,
   ⟨0x1e00, "LATIN ", ["CAPITAL LETTER A WITH RING BELOW|SMALL LETTER A WITH RING BELOW",
     "CAPITAL LETTER B WITH DOT ABOVE|SMALL LETTER B WITH DOT ABOVE",
     "CAPITAL LETTER B WITH DOT BELOW|SMALL LETTER B WITH DOT BELOW",
     "CAPITAL LETTER B WITH LINE BELOW|SMALL LETTER B WITH LINE BELOW",
     "CAPITAL LETTER C WITH CEDILLA AND ACUTE|SMALL LETTER C WITH CEDILLA AND ACUTE",
     "CAPITAL LETTER D WITH DOT ABOVE|SMALL LETTER D WITH DOT ABOVE",
     "CAPITAL LETTER D WITH DOT BELOW|SMALL LETTER D WITH DOT BELOW",
     "CAPITAL LETTER D WITH LINE BELOW|SMALL LETTER D WITH LINE BELOW",
     "CAPITAL LETTER D WITH CEDILLA|SMALL LETTER D WITH CEDILLA",
     "CAPITAL LETTER D WITH CIRCUMFLEX BELOW|SMALL LETTER D WITH CIRCUMFLEX BELOW",
     "CAPITAL LETTER E WITH MACRON AND GRAVE|SMALL LETTER E WITH MACRON AND GRAVE",
     "CAPITAL LETTER E WITH MACRON AND ACUTE|SMALL LETTER E WITH MACRON AND ACUTE",
     "CAPITAL LETTER E WITH CIRCUMFLEX BELOW|SMALL LETTER E WITH CIRCUMFLEX BELOW",
     "CAPITAL LETTER E WITH TILDE BELOW|SMALL LETTER E WITH TILDE BELOW",
     "CAPITAL LETTER E WITH CEDILLA AND BREVE|SMALL LETTER E WITH CEDILLA AND BREVE",
     "CAPITAL LETTER F WITH DOT ABOVE|SMALL LETTER F WITH DOT ABOVE|CAPITAL LETTER G WITH MACRON",
     "SMALL LETTER G WITH MACRON|CAPITAL LETTER H WITH DOT ABOVE|SMALL LETTER H WITH DOT ABOVE",
     "CAPITAL LETTER H WITH DOT BELOW|SMALL LETTER H WITH DOT BELOW",
     "CAPITAL LETTER H WITH DIAERESIS|SMALL LETTER H WITH DIAERESIS",
     "CAPITAL LETTER H WITH CEDILLA|SMALL LETTER H WITH CEDILLA",
     "CAPITAL LETTER H WITH BREVE BELOW|SMALL LETTER H WITH BREVE BELOW",
     "CAPITAL LETTER I WITH TILDE BELOW|SMALL LETTER I WITH TILDE BELOW",
     "CAPITAL LETTER I WITH DIAERESIS AND ACUTE|SMALL LETTER I WITH DIAERESIS AND ACUTE",
     "CAPITAL LETTER K WITH ACUTE|SMALL LETTER K WITH ACUTE|CAPITAL LETTER K WITH DOT BELOW",
     "SMALL LETTER K WITH DOT BELOW|CAPITAL LETTER K WITH LINE BELOW",
     "SMALL LETTER K WITH LINE BELOW|CAPITAL LETTER L WITH DOT BELOW",
     "SMALL LETTER L WITH DOT BELOW|CAPITAL LETTER L WITH DOT BELOW AND MACRON",
     "SMALL LETTER L WITH DOT BELOW AND MACRON|CAPITAL LETTER L WITH LINE BELOW",
     "SMALL LETTER L WITH LINE BELOW|CAPITAL LETTER L WITH CIRCUMFLEX BELOW",
     "SMALL LETTER L WITH CIRCUMFLEX BELOW|CAPITAL LETTER M WITH ACUTE|SMALL LETTER M WITH ACUTE",
     "CAPITAL LETTER M WITH DOT ABOVE|SMALL LETTER M WITH DOT ABOVE",
     "CAPITAL LETTER M WITH DOT BELOW|SMALL LETTER M WITH DOT BELOW",
     "CAPITAL LETTER N WITH DOT ABOVE|SMALL LETTER N WITH DOT ABOVE",
     "CAPITAL LETTER N WITH DOT BELOW|SMALL LETTER N WITH DOT BELOW",
     "CAPITAL LETTER N WITH LINE BELOW|SMALL LETTER N WITH LINE BELOW",
     "CAPITAL LETTER N WITH CIRCUMFLEX BELOW|SMALL LETTER N WITH CIRCUMFLEX BELOW",
     "CAPITAL LETTER O WITH TILDE AND ACUTE|SMALL LETTER O WITH TILDE AND ACUTE",
     "CAPITAL LETTER O WITH TILDE AND DIAERESIS|SMALL LETTER O WITH TILDE AND DIAERESIS",
     "CAPITAL LETTER O WITH MACRON AND GRAVE|SMALL LETTER O WITH MACRON AND GRAVE",
     "CAPITAL LETTER O WITH MACRON AND ACUTE|SMALL LETTER O WITH MACRON AND ACUTE",
     "CAPITAL LETTER P WITH ACUTE|SMALL LETTER P WITH ACUTE|CAPITAL LETTER P WITH DOT ABOVE",
     "SMALL LETTER P WITH DOT ABOVE|CAPITAL LETTER R WITH DOT ABOVE",
     "SMALL LETTER R WITH DOT ABOVE|CAPITAL LETTER R WITH DOT BELOW",
     "SMALL LETTER R WITH DOT BELOW|CAPITAL LETTER R WITH DOT BELOW AND MACRON",
     "SMALL LETTER R WITH DOT BELOW AND MACRON|CAPITAL LETTER R WITH LINE BELOW",
     "SMALL LETTER R WITH LINE BELOW|CAPITAL LETTER S WITH DOT ABOVE",
     "SMALL LETTER S WITH DOT ABOVE|CAPITAL LETTER S WITH DOT BELOW",
     "SMALL LETTER S WITH DOT BELOW|CAPITAL LETTER S WITH ACUTE AND DOT ABOVE",
     "SMALL LETTER S WITH ACUTE AND DOT ABOVE|CAPITAL LETTER S WITH CARON AND DOT ABOVE",
     "SMALL LETTER S WITH CARON AND DOT ABOVE|CAPITAL LETTER S WITH DOT BELOW AND DOT ABOVE",
     "SMALL LETTER S WITH DOT BELOW AND DOT ABOVE|CAPITAL LETTER T WITH DOT ABOVE",
     "SMALL LETTER T WITH DOT ABOVE|CAPITAL LETTER T WITH DOT BELOW",
     "SMALL LETTER T WITH DOT BELOW|CAPITAL LETTER T WITH LINE BELOW",
     "SMALL LETTER T WITH LINE BELOW|CAPITAL LETTER T WITH CIRCUMFLEX BELOW",
     "SMALL LETTER T WITH CIRCUMFLEX BELOW|CAPITAL LETTER U WITH DIAERESIS BELOW",
     "SMALL LETTER U WITH DIAERESIS BELOW|CAPITAL LETTER U WITH TILDE BELOW",
     "SMALL LETTER U WITH TILDE BELOW|CAPITAL LETTER U WITH CIRCUMFLEX BELOW",
     "SMALL LETTER U WITH CIRCUMFLEX BELOW|CAPITAL LETTER U WITH TILDE AND ACUTE",
     "SMALL LETTER U WITH TILDE AND ACUTE|CAPITAL LETTER U WITH MACRON AND DIAERESIS",
     "SMALL LETTER U WITH MACRON AND DIAERESIS|CAPITAL LETTER V WITH TILDE",
     "SMALL LETTER V WITH TILDE|CAPITAL LETTER V WITH DOT BELOW|SMALL LETTER V WITH DOT BELOW",
     "CAPITAL LETTER W WITH GRAVE|SMALL LETTER W WITH GRAVE|CAPITAL LETTER W WITH ACUTE",
     "SMALL LETTER W WITH ACUTE|CAPITAL LETTER W WITH DIAERESIS|SMALL LETTER W WITH DIAERESIS",
     "CAPITAL LETTER W WITH DOT ABOVE|SMALL LETTER W WITH DOT ABOVE",
     "CAPITAL LETTER W WITH DOT BELOW|SMALL LETTER W WITH DOT BELOW",
     "CAPITAL LETTER X WITH DOT ABOVE|SMALL LETTER X WITH DOT ABOVE",
     "CAPITAL LETTER X WITH DIAERESIS|SMALL LETTER X WITH DIAERESIS",
     "CAPITAL LETTER Y WITH DOT ABOVE|SMALL LETTER Y WITH DOT ABOVE",
     "CAPITAL LETTER Z WITH CIRCUMFLEX|SMALL LETTER Z WITH CIRCUMFLEX",
     "CAPITAL LETTER Z WITH DOT BELOW|SMALL LETTER Z WITH DOT BELOW",
     "CAPITAL LETTER Z WITH LINE BELOW"]⟩,
   ⟨0x1e95, "LATIN SMALL LETTER ", ["Z WITH LINE BELOW|H WITH LINE BELOW|T WITH DIAERESIS",
     "W WITH RING ABOVE|Y WITH RING ABOVE|A WITH RIGHT HALF RING|LONG S WITH DOT ABOVE",
     "LONG S WITH DIAGONAL STROKE|LONG S WITH HIGH STROKE"]⟩,
   ⟨0x1e9e, "LATIN ", ["CAPITAL LETTER SHARP S|SMALL LETTER DELTA",
     "CAPITAL LETTER A WITH DOT BELOW|SMALL LETTER A WITH DOT BELOW",
     "CAPITAL LETTER A WITH HOOK ABOVE|SMALL LETTER A WITH HOOK ABOVE",
     "CAPITAL LETTER A WITH CIRCUMFLEX AND ACUTE|SMALL LETTER A WITH CIRCUMFLEX AND ACUTE",
     "CAPITAL LETTER A WITH CIRCUMFLEX AND GRAVE|SMALL LETTER A WITH CIRCUMFLEX AND GRAVE",
     "CAPITAL LETTER A WITH CIRCUMFLEX AND HOOK ABOVE",
     "SMALL LETTER A WITH CIRCUMFLEX AND HOOK ABOVE|CAPITAL LETTER A WITH CIRCUMFLEX AND TILDE",
     "SMALL LETTER A WITH CIRCUMFLEX AND TILDE|CAPITAL LETTER A WITH CIRCUMFLEX AND DOT BELOW",
     "SMALL LETTER A WITH CIRCUMFLEX AND DOT BELOW|CAPITAL LETTER A WITH BREVE AND ACUTE",
     "SMALL LETTER A WITH BREVE AND ACUTE|CAPITAL LETTER A WITH BREVE AND GRAVE",
     "SMALL LETTER A WITH BREVE AND GRAVE|CAPITAL LETTER A WITH BREVE AND HOOK ABOVE",
     "SMALL LETTER A WITH BREVE AND HOOK ABOVE|CAPITAL LETTER A WITH BREVE AND TILDE",
     "SMALL LETTER A WITH BREVE AND TILDE|CAPITAL LETTER A WITH BREVE AND DOT BELOW",
     "SMALL LETTER A WITH BREVE AND DOT BELOW|CAPITAL LETTER E WITH DOT BELOW",
     "SMALL LETTER E WITH DOT BELOW|CAPITAL LETTER E WITH HOOK ABOVE",
     "SMALL LETTER E WITH HOOK ABOVE|CAPITAL LETTER E WITH TILDE|SMALL LETTER E WITH TILDE",
     "CAPITAL LETTER E WITH CIRCUMFLEX AND ACUTE|SMALL LETTER E WITH CIRCUMFLEX AND ACUTE",
     "CAPITAL LETTER E WITH CIRCUMFLEX AND GRAVE|SMALL LETTER E WITH CIRCUMFLEX AND GRAVE",
     "CAPITAL LETTER E WITH CIRCUMFLEX AND HOOK ABOVE",
     "SMALL LETTER E WITH CIRCUMFLEX AND HOOK ABOVE|CAPITAL LETTER E WITH CIRCUMFLEX AND TILDE",
     "SMALL LETTER E WITH CIRCUMFLEX AND TILDE|CAPITAL LETTER E WITH CIRCUMFLEX AND DOT BELOW",
     "SMALL LETTER E WITH CIRCUMFLEX AND DOT BELOW|CAPITAL LETTER I WITH HOOK ABOVE",
     "SMALL LETTER I WITH HOOK ABOVE|CAPITAL LETTER I WITH DOT BELOW",
     "SMALL LETTER I WITH DOT BELOW|CAPITAL LETTER O WITH DOT BELOW",
     "SMALL LETTER O WITH DOT BELOW|CAPITAL LETTER O WITH HOOK ABOVE",
     "SMALL LETTER O WITH HOOK ABOVE|CAPITAL LETTER O WITH CIRCUMFLEX AND ACUTE",
     "SMALL LETTER O WITH CIRCUMFLEX AND ACUTE|CAPITAL LETTER O WITH CIRCUMFLEX AND GRAVE",
     "SMALL LETTER O WITH CIRCUMFLEX AND GRAVE|CAPITAL LETTER O WITH CIRCUMFLEX AND HOOK ABOVE",
     "SMALL LETTER O WITH CIRCUMFLEX AND HOOK ABOVE|CAPITAL LETTER O WITH CIRCUMFLEX AND TILDE",
     "SMALL LETTER O WITH CIRCUMFLEX AND TILDE|CAPITAL LETTER O WITH CIRCUMFLEX AND DOT BELOW",
     "SMALL LETTER O WITH CIRCUMFLEX AND DOT BELOW|CAPITAL LETTER O WITH HORN AND ACUTE",
     "SMALL LETTER O WITH HORN AND ACUTE|CAPITAL LETTER O WITH HORN AND GRAVE",
     "SMALL LETTER O WITH HORN AND GRAVE|CAPITAL LETTER O WITH HORN AND HOOK ABOVE",
     "SMALL LETTER O WITH HORN AND HOOK ABOVE|CAPITAL LETTER O WITH HORN AND TILDE",
     "SMALL LETTER O WITH HORN AND TILDE|CAPITAL LETTER O WITH HORN AND DOT BELOW",
     "SMALL LETTER O WITH HORN AND DOT BELOW|CAPITAL LETTER U WITH DOT BELOW",
     "SMALL LETTER U WITH DOT BELOW|CAPITAL LETTER U WITH HOOK ABOVE",
     "SMALL LETTER U WITH HOOK ABOVE|CAPITAL LETTER U WITH HORN AND ACUTE",
     "SMALL LETTER U WITH HORN AND ACUTE|CAPITAL LETTER U WITH HORN AND GRAVE",
     "SMALL LETTER U WITH HORN AND GRAVE|CAPITAL LETTER U WITH HORN AND HOOK ABOVE",
     "SMALL LETTER U WITH HORN AND HOOK ABOVE|CAPITAL LETTER U WITH HORN AND TILDE",
     "SMALL LETTER U WITH HORN AND TILDE|CAPITAL LETTER U WITH HORN AND DOT BELOW",
     "SMALL LETTER U WITH HORN AND DOT BELOW|CAPITAL LETTER Y WITH GRAVE",
     "SMALL LETTER Y WITH GRAVE|CAPITAL LETTER Y WITH DOT BELOW|SMALL LETTER Y WITH DOT BELOW",
     "CAPITAL LETTER Y WITH HOOK ABOVE|SMALL LETTER Y WITH HOOK ABOVE",
     "CAPITAL LETTER Y WITH TILDE|SMALL LETTER Y WITH TILDE|CAPITAL LETTER MIDDLE-WELSH LL",
     "SMALL LETTER MIDDLE-WELSH LL|CAPITAL LETTER MIDDLE-WELSH V|SMALL LETTER MIDDLE-WELSH V",
     "CAPITAL LETTER Y WITH LOOP|SMALL LETTER Y WITH LOOP"]⟩,
   ⟨0x1f00, "GREEK SMALL LETTER ALPHA WITH ", ["PSILI|DASIA|PSILI AND VARIA|DASIA AND VARIA",
     "PSILI AND OXIA|DASIA AND OXIA|PSILI AND PERISPOMENI|DASIA AND PERISPOMENI"]⟩,
   ⟨0x1f08, "GREEK CAPITAL LETTER ALPHA WITH ", ["PSILI|DASIA|PSILI AND VARIA|DASIA AND VARIA",
     "PSILI AND OXIA|DASIA AND OXIA|PSILI AND PERISPOMENI|DASIA AND PERISPOMENI"]⟩,
   ⟨0x1f10, "GREEK SMALL LETTER EPSILON WITH ", ["PSILI|DASIA|PSILI AND VARIA|DASIA AND VARIA",
     "PSILI AND OXIA|DASIA AND OXIA"]⟩,
   ⟨0x1f18, "GREEK CAPITAL LETTER EPSILON WITH ", ["PSILI|DASIA|PSILI AND VARIA|DASIA AND VARIA",
     "PSILI AND OXIA|DASIA AND OXIA"]⟩,
   ⟨0x1f20, "GREEK SMALL LETTER ETA WITH ", ["PSILI|DASIA|PSILI AND VARIA|DASIA AND VARIA",
     "PSILI AND OXIA|DASIA AND OXIA|PSILI AND PERISPOMENI|DASIA AND PERISPOMENI"]⟩,
   ⟨0x1f28, "GREEK CAPITAL LETTER ETA WITH ", ["PSILI|DASIA|PSILI AND VARIA|DASIA AND VARIA",
     "PSILI AND OXIA|DASIA AND OXIA|PSILI AND PERISPOMENI|DASIA AND PERISPOMENI"]⟩,
   ⟨0x1f30, "GREEK SMALL LETTER IOTA WITH ", ["PSILI|DASIA|PSILI AND VARIA|DASIA AND VARIA",
     "PSILI AND OXIA|DASIA AND OXIA|PSILI AND PERISPOMENI|DASIA AND PERISPOMENI"]⟩,
   ⟨0x1f38, "GREEK CAPITAL LETTER IOTA WITH ", ["PSILI|DASIA|PSILI AND VARIA|DASIA AND VARIA",
     "PSILI AND OXIA|DASIA AND OXIA|PSILI AND PERISPOMENI|DASIA AND PERISPOMENI"]⟩,
   ⟨0x1f40, "GREEK SMALL LETTER OMICRON WITH ", ["PSILI|DASIA|PSILI AND VARIA|DASIA AND VARIA",
     "PSILI AND OXIA|DASIA AND OXIA"]⟩,
   ⟨0x1f48, "GREEK CAPITAL LETTER OMICRON WITH ", ["PSILI|DASIA|PSILI AND VARIA|DASIA AND VARIA",
     "PSILI AND OXIA|DASIA AND OXIA"]⟩,
   ⟨0x1f50, "GREEK SMALL LETTER UPSILON WITH ", ["PSILI|DASIA|PSILI AND VARIA|DASIA AND VARIA",
     "PSILI AND OXIA|DASIA AND OXIA|PSILI AND PERISPOMENI|DASIA AND PERISPOMENI"]⟩,
   ⟨0x1f59, "GREEK CAPITAL LETTER UPSILON WITH DASIA", [""]⟩,
   ⟨0x1f5b, "GREEK CAPITAL LETTER UPSILON WITH DASIA AND VARIA", [""]⟩,
   ⟨0x1f5d, "GREEK CAPITAL LETTER UPSILON WITH DASIA AND OXIA", [""]⟩,
   ⟨0x1f5f, "GREEK CAPITAL LETTER UPSILON WITH DASIA AND PERISPOMENI", [""]⟩,
   ⟨0x1f60, "GREEK SMALL LETTER OMEGA WITH ", ["PSILI|DASIA|PSILI AND VARIA|DASIA AND VARIA",
     "PSILI AND OXIA|DASIA AND OXIA|PSILI AND PERISPOMENI|DASIA AND PERISPOMENI"]⟩,
   ⟨0x1f68, "GREEK CAPITAL LETTER OMEGA WITH ", ["PSILI|DASIA|PSILI AND VARIA|DASIA AND VARIA",
     "PSILI AND OXIA|DASIA AND OXIA|PSILI AND PERISPOMENI|DASIA AND PERISPOMENI"]⟩,
   ⟨0x1f70, "GREEK SMALL LETTER ", ["ALPHA WITH VARIA|ALPHA WITH OXIA|EPSILON WITH VARIA",
     "EPSILON WITH OXIA|ETA WITH VARIA|ETA WITH OXIA|IOTA WITH VARIA|IOTA WITH OXIA",
     "OMICRON WITH VARIA|OMICRON WITH OXIA|UPSILON WITH VARIA|UPSILON WITH OXIA|OMEGA WITH VARIA",
     "OMEGA WITH OXIA"]⟩,
   ⟨0x1f80, "GREEK SMALL LETTER ALPHA WITH ", ["PSILI AND YPOGEGRAMMENI|DASIA AND YPOGEGRAMMENI",
     "PSILI AND VARIA AND YPOGEGRAMMENI|DASIA AND VARIA AND YPOGEGRAMMENI",
     "PSILI AND OXIA AND YPOGEGRAMMENI|DASIA AND OXIA AND YPOGEGRAMMENI",
     "PSILI AND PERISPOMENI AND YPOGEGRAMMENI|DASIA AND PERISPOMENI AND YPOGEGRAMMENI"]⟩,
   ⟨0x1f88, "GREEK CAPITAL LETTER ALPHA WITH ", ["PSILI AND PROSGEGRAMMENI",
     "DASIA AND PROSGEGRAMMENI|PSILI AND VARIA AND PROSGEGRAMMENI",
     "DASIA AND VARIA AND PROSGEGRAMMENI|PSILI AND OXIA AND PROSGEGRAMMENI",
     "DASIA AND OXIA AND PROSGEGRAMMENI|PSILI AND PERISPOMENI AND PROSGEGRAMMENI",
     "DASIA AND PERISPOMENI AND PROSGEGRAMMENI"]⟩,
   ⟨0x1f90, "GREEK SMALL LETTER ETA WITH ", ["PSILI AND YPOGEGRAMMENI|DASIA AND YPOGEGRAMMENI",
     "PSILI AND VARIA AND YPOGEGRAMMENI|DASIA AND VARIA AND YPOGEGRAMMENI",
     "PSILI AND OXIA AND YPOGEGRAMMENI|DASIA AND OXIA AND YPOGEGRAMMENI",
     "PSILI AND PERISPOMENI AND YPOGEGRAMMENI|DASIA AND PERISPOMENI AND YPOGEGRAMMENI"]⟩,
   ⟨0x1f98, "GREEK CAPITAL LETTER ETA WITH ", ["PSILI AND PROSGEGRAMMENI",
     "DASIA AND PROSGEGRAMMENI|PSILI AND VARIA AND PROSGEGRAMMENI",
     "DASIA AND VARIA AND PROSGEGRAMMENI|PSILI AND OXIA AND PROSGEGRAMMENI",
     "DASIA AND OXIA AND PROSGEGRAMMENI|PSILI AND PERISPOMENI AND PROSGEGRAMMENI",
     "DASIA AND PERISPOMENI AND PROSGEGRAMMENI"]⟩,
   ⟨0x1fa0, "GREEK SMALL LETTER OMEGA WITH ", ["PSILI AND YPOGEGRAMMENI|DASIA AND YPOGEGRAMMENI",
     "PSILI AND VARIA AND YPOGEGRAMMENI|DASIA AND VARIA AND YPOGEGRAMMENI",
     "PSILI AND OXIA AND YPOGEGRAMMENI|DASIA AND OXIA AND YPOGEGRAMMENI",
     "PSILI AND PERISPOMENI AND YPOGEGRAMMENI|DASIA AND PERISPOMENI AND YPOGEGRAMMENI"]⟩,
   ⟨0x1fa8, "GREEK CAPITAL LETTER OMEGA WITH ", ["PSILI AND PROSGEGRAMMENI",
     "DASIA AND PROSGEGRAMMENI|PSILI AND VARIA AND PROSGEGRAMMENI",
     "DASIA AND VARIA AND PROSGEGRAMMENI|PSILI AND OXIA AND PROSGEGRAMMENI",
     "DASIA AND OXIA AND PROSGEGRAMMENI|PSILI AND PERISPOMENI AND PROSGEGRAMMENI",
     "DASIA AND PERISPOMENI AND PROSGEGRAMMENI"]⟩,
   ⟨0x1fb0, "GREEK SMALL LETTER ALPHA WITH ", ["VRACHY|MACRON|VARIA AND YPOGEGRAMMENI",
     "YPOGEGRAMMENI|OXIA AND YPOGEGRAMMENI"]⟩,
   ⟨0x1fb6, "GREEK SMALL LETTER ALPHA WITH PERISPOMENI", ["| AND YPOGEGRAMMENI"]⟩,
   ⟨0x1fb8, "GREEK CAPITAL LETTER ALPHA WITH ", ["VRACHY|MACRON|VARIA|OXIA|PROSGEGRAMMENI"]⟩,
   ⟨0x1fbd, "GREEK ", ["KORONIS|PROSGEGRAMMENI|PSILI|PERISPOMENI|DIALYTIKA AND PERISPOMENI"]⟩,
   ⟨0x1fc2, "GREEK SMALL LETTER ETA WITH ", ["VARIA AND YPOGEGRAMMENI|YPOGEGRAMMENI",
     "OXIA AND YPOGEGRAMMENI"]⟩,
   ⟨0x1fc6, "GREEK SMALL LETTER ETA WITH PERISPOMENI", ["| AND YPOGEGRAMMENI"]⟩,
   ⟨0x1fc8, "GREEK CAPITAL LETTER E", ["PSILON WITH VARIA|PSILON WITH OXIA|TA WITH VARIA",
     "TA WITH OXIA|TA WITH PROSGEGRAMMENI"]⟩,
   ⟨0x1fcd, "GREEK PSILI AND ", ["VARIA|OXIA|PERISPOMENI"]⟩,
   ⟨0x1fd0, "GREEK SMALL LETTER IOTA WITH ", ["VRACHY|MACRON|DIALYTIKA AND VARIA",
     "DIALYTIKA AND OXIA"]⟩,
   ⟨0x1fd6, "GREEK SMALL LETTER IOTA WITH ", ["PERISPOMENI|DIALYTIKA AND PERISPOMENI"]⟩,
   ⟨0x1fd8, "GREEK CAPITAL LETTER IOTA WITH ", ["VRACHY|MACRON|VARIA|OXIA"]⟩,
   ⟨0x1fdd, "GREEK DASIA AND ", ["VARIA|OXIA|PERISPOMENI"]⟩,
   ⟨0x1fe0, "GREEK SMALL LETTER UPSILON WITH ", ["VRACHY|MACRON|DIALYTIKA AND VARIA",
     "DIALYTIKA AND OXIA"]⟩,
   ⟨0x1fe4, "GREEK SMALL LETTER ", ["RHO WITH PSILI|RHO WITH DASIA|UPSILON WITH PERISPOMENI",
     "UPSILON WITH DIALYTIKA AND PERISPOMENI"]⟩,
   ⟨0x1fe8, "GREEK CAPITAL LETTER UPSILON WITH ", ["VRACHY|MACRON|VARIA|OXIA"]⟩,
   ⟨0x1fec, "GREEK ", ["CAPITAL LETTER RHO WITH DASIA|DIALYTIKA AND VARIA|DIALYTIKA AND OXIA",
     "VARIA"]⟩,
   ⟨0x1ff2, "GREEK SMALL LETTER OMEGA WITH ", ["VARIA AND YPOGEGRAMMENI|YPOGEGRAMMENI",
     "OXIA AND YPOGEGRAMMENI"]⟩,
   ⟨0x1ff6, "GREEK SMALL LETTER OMEGA WITH PERISPOMENI", ["| AND YPOGEGRAMMENI"]⟩,
   ⟨0x1ff8, "GREEK CAPITAL LETTER OM", ["ICRON WITH VARIA|ICRON WITH OXIA|EGA WITH VARIA",
     "EGA WITH OXIA|EGA WITH PROSGEGRAMMENI"]⟩,
   ⟨0x1ffd, "GREEK ", ["OXIA|DASIA"]⟩]

end JogShuttle.Text
