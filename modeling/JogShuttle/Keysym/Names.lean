/-!
# Names of keysyms

The names that rule files may use for keys, without their common prefix, in the order in which an
unnamed symbol looks for its first name.
-/

set_option autoImplicit false

namespace JogShuttle.Keysym

/-- The names of the keyboard function keys. -/
def miscellany : List (String × Int) :=
  [("Alt_L", 0xffe9), ("Alt_R", 0xffea), ("BackSpace", 0xff08), ("Begin", 0xff58),
   ("Break", 0xff6b), ("Cancel", 0xff69), ("Caps_Lock", 0xffe5), ("Clear", 0xff0b),
   ("Control_L", 0xffe3), ("Control_R", 0xffe4), ("Delete", 0xffff), ("Down", 0xff54),
   ("Eisu_Shift", 0xff2f), ("Eisu_toggle", 0xff30), ("End", 0xff57), ("Escape", 0xff1b),
   ("Execute", 0xff62), ("F1", 0xffbe), ("F10", 0xffc7), ("F11", 0xffc8), ("F12", 0xffc9),
   ("F13", 0xffca), ("F14", 0xffcb), ("F15", 0xffcc), ("F16", 0xffcd), ("F17", 0xffce),
   ("F18", 0xffcf), ("F19", 0xffd0), ("F2", 0xffbf), ("F20", 0xffd1), ("F21", 0xffd2),
   ("F22", 0xffd3), ("F23", 0xffd4), ("F24", 0xffd5), ("F25", 0xffd6), ("F26", 0xffd7),
   ("F27", 0xffd8), ("F28", 0xffd9), ("F29", 0xffda), ("F3", 0xffc0), ("F30", 0xffdb),
   ("F31", 0xffdc), ("F32", 0xffdd), ("F33", 0xffde), ("F34", 0xffdf), ("F35", 0xffe0),
   ("F4", 0xffc1), ("F5", 0xffc2), ("F6", 0xffc3), ("F7", 0xffc4), ("F8", 0xffc5), ("F9", 0xffc6),
   ("Find", 0xff68), ("Hankaku", 0xff29), ("Help", 0xff6a), ("Henkan", 0xff23),
   ("Henkan_Mode", 0xff23), ("Hiragana", 0xff25), ("Hiragana_Katakana", 0xff27), ("Home", 0xff50),
   ("Hyper_L", 0xffed), ("Hyper_R", 0xffee), ("Insert", 0xff63), ("KP_0", 0xffb0), ("KP_1", 0xffb1),
   ("KP_2", 0xffb2), ("KP_3", 0xffb3), ("KP_4", 0xffb4), ("KP_5", 0xffb5), ("KP_6", 0xffb6),
   ("KP_7", 0xffb7), ("KP_8", 0xffb8), ("KP_9", 0xffb9), ("KP_Add", 0xffab), ("KP_Begin", 0xff9d),
   ("KP_Decimal", 0xffae), ("KP_Delete", 0xff9f), ("KP_Divide", 0xffaf), ("KP_Down", 0xff99),
   ("KP_End", 0xff9c), ("KP_Enter", 0xff8d), ("KP_Equal", 0xffbd), ("KP_F1", 0xff91),
   ("KP_F2", 0xff92), ("KP_F3", 0xff93), ("KP_F4", 0xff94), ("KP_Home", 0xff95),
   ("KP_Insert", 0xff9e), ("KP_Left", 0xff96), ("KP_Multiply", 0xffaa), ("KP_Next", 0xff9b),
   ("KP_Page_Down", 0xff9b), ("KP_Page_Up", 0xff9a), ("KP_Prior", 0xff9a), ("KP_Right", 0xff98),
   ("KP_Separator", 0xffac), ("KP_Space", 0xff80), ("KP_Subtract", 0xffad), ("KP_Tab", 0xff89),
   ("KP_Up", 0xff97), ("Kana_Lock", 0xff2d), ("Kana_Shift", 0xff2e), ("Kanji", 0xff21),
   ("Katakana", 0xff26), ("L1", 0xffc8), ("L10", 0xffd1), ("L2", 0xffc9), ("L3", 0xffca),
   ("L4", 0xffcb), ("L5", 0xffcc), ("L6", 0xffcd), ("L7", 0xffce), ("L8", 0xffcf), ("L9", 0xffd0),
   ("Left", 0xff51), ("Linefeed", 0xff0a), ("Mae_Koho", 0xff3e), ("Massyo", 0xff2c),
   ("Menu", 0xff67), ("Meta_L", 0xffe7), ("Meta_R", 0xffe8), ("Mode_switch", 0xff7e),
   ("Muhenkan", 0xff22), ("Multi_key", 0xff20), ("MultipleCandidate", 0xff3d), ("Next", 0xff56),
   ("Num_Lock", 0xff7f), ("Page_Down", 0xff56), ("Page_Up", 0xff55), ("Pause", 0xff13),
   ("PreviousCandidate", 0xff3e), ("Print", 0xff61), ("Prior", 0xff55), ("R1", 0xffd2),
   ("R10", 0xffdb), ("R11", 0xffdc), ("R12", 0xffdd), ("R13", 0xffde), ("R14", 0xffdf),
   ("R15", 0xffe0), ("R2", 0xffd3), ("R3", 0xffd4), ("R4", 0xffd5), ("R5", 0xffd6), ("R6", 0xffd7),
   ("R7", 0xffd8), ("R8", 0xffd9), ("R9", 0xffda), ("Redo", 0xff66), ("Return", 0xff0d),
   ("Right", 0xff53), ("Romaji", 0xff24), ("Scroll_Lock", 0xff14), ("Select", 0xff60),
   ("Shift_L", 0xffe1), ("Shift_Lock", 0xffe6), ("Shift_R", 0xffe2), ("SingleCandidate", 0xff3c),
   ("Super_L", 0xffeb), ("Super_R", 0xffec), ("Sys_Req", 0xff15), ("Tab", 0xff09),
   ("Touroku", 0xff2b), ("Undo", 0xff65), ("Up", 0xff52), ("Zen_Koho", 0xff3d), ("Zenkaku", 0xff28),
   ("Zenkaku_Hankaku", 0xff2a), ("script_switch", 0xff7e)]

/-- The names of the Latin 1 characters. -/
def latin1 : List (String × Int) :=
  [("0", 0x30), ("1", 0x31), ("2", 0x32), ("3", 0x33), ("4", 0x34), ("5", 0x35), ("6", 0x36),
   ("7", 0x37), ("8", 0x38), ("9", 0x39), ("A", 0x41), ("AE", 0xc6), ("Aacute", 0xc1),
   ("Acircumflex", 0xc2), ("Adiaeresis", 0xc4), ("Agrave", 0xc0), ("Aring", 0xc5), ("Atilde", 0xc3),
   ("B", 0x42), ("C", 0x43), ("Ccedilla", 0xc7), ("D", 0x44), ("E", 0x45), ("ETH", 0xd0),
   ("Eacute", 0xc9), ("Ecircumflex", 0xca), ("Ediaeresis", 0xcb), ("Egrave", 0xc8), ("Eth", 0xd0),
   ("F", 0x46), ("G", 0x47), ("H", 0x48), ("I", 0x49), ("Iacute", 0xcd), ("Icircumflex", 0xce),
   ("Idiaeresis", 0xcf), ("Igrave", 0xcc), ("J", 0x4a), ("K", 0x4b), ("L", 0x4c), ("M", 0x4d),
   ("N", 0x4e), ("Ntilde", 0xd1), ("O", 0x4f), ("Oacute", 0xd3), ("Ocircumflex", 0xd4),
   ("Odiaeresis", 0xd6), ("Ograve", 0xd2), ("Ooblique", 0xd8), ("Otilde", 0xd5), ("P", 0x50),
   ("Q", 0x51), ("R", 0x52), ("S", 0x53), ("T", 0x54), ("THORN", 0xde), ("Thorn", 0xde),
   ("U", 0x55), ("Uacute", 0xda), ("Ucircumflex", 0xdb), ("Udiaeresis", 0xdc), ("Ugrave", 0xd9),
   ("V", 0x56), ("W", 0x57), ("X", 0x58), ("Y", 0x59), ("Yacute", 0xdd), ("Z", 0x5a), ("a", 0x61),
   ("aacute", 0xe1), ("acircumflex", 0xe2), ("acute", 0xb4), ("adiaeresis", 0xe4), ("ae", 0xe6),
   ("agrave", 0xe0), ("ampersand", 0x26), ("apostrophe", 0x27), ("aring", 0xe5),
   ("asciicircum", 0x5e), ("asciitilde", 0x7e), ("asterisk", 0x2a), ("at", 0x40), ("atilde", 0xe3),
   ("b", 0x62), ("backslash", 0x5c), ("bar", 0x7c), ("braceleft", 0x7b), ("braceright", 0x7d),
   ("bracketleft", 0x5b), ("bracketright", 0x5d), ("brokenbar", 0xa6), ("c", 0x63),
   ("ccedilla", 0xe7), ("cedilla", 0xb8), ("cent", 0xa2), ("colon", 0x3a), ("comma", 0x2c),
   ("copyright", 0xa9), ("currency", 0xa4), ("d", 0x64), ("degree", 0xb0), ("diaeresis", 0xa8),
   ("division", 0xf7), ("dollar", 0x24), ("e", 0x65), ("eacute", 0xe9), ("ecircumflex", 0xea),
   ("ediaeresis", 0xeb), ("egrave", 0xe8), ("equal", 0x3d), ("eth", 0xf0), ("exclam", 0x21),
   ("exclamdown", 0xa1), ("f", 0x66), ("g", 0x67), ("grave", 0x60), ("greater", 0x3e),
   ("guillemotleft", 0xab), ("guillemotright", 0xbb), ("h", 0x68), ("hyphen", 0xad), ("i", 0x69),
   ("iacute", 0xed), ("icircumflex", 0xee), ("idiaeresis", 0xef), ("igrave", 0xec), ("j", 0x6a),
   ("k", 0x6b), ("l", 0x6c), ("less", 0x3c), ("m", 0x6d), ("macron", 0xaf), ("masculine", 0xba),
   ("minus", 0x2d), ("mu", 0xb5), ("multiply", 0xd7), ("n", 0x6e), ("nobreakspace", 0xa0),
   ("notsign", 0xac), ("ntilde", 0xf1), ("numbersign", 0x23), ("o", 0x6f), ("oacute", 0xf3),
   ("ocircumflex", 0xf4), ("odiaeresis", 0xf6), ("ograve", 0xf2), ("onehalf", 0xbd),
   ("onequarter", 0xbc), ("onesuperior", 0xb9), ("ordfeminine", 0xaa), ("oslash", 0xf8),
   ("otilde", 0xf5), ("p", 0x70), ("paragraph", 0xb6), ("parenleft", 0x28), ("parenright", 0x29),
   ("percent", 0x25), ("period", 0x2e), ("periodcentered", 0xb7), ("plus", 0x2b),
   ("plusminus", 0xb1), ("q", 0x71), ("question", 0x3f), ("questiondown", 0xbf), ("quotedbl", 0x22),
   ("quoteleft", 0x60), ("quoteright", 0x27), ("r", 0x72), ("registered", 0xae), ("s", 0x73),
   ("section", 0xa7), ("semicolon", 0x3b), ("slash", 0x2f), ("space", 0x20), ("ssharp", 0xdf),
   ("sterling", 0xa3), ("t", 0x74), ("thorn", 0xfe), ("threequarters", 0xbe),
   ("threesuperior", 0xb3), ("twosuperior", 0xb2), ("u", 0x75), ("uacute", 0xfa),
   ("ucircumflex", 0xfb), ("udiaeresis", 0xfc), ("ugrave", 0xf9), ("underscore", 0x5f), ("v", 0x76),
   ("w", 0x77), ("x", 0x78), ("y", 0x79), ("yacute", 0xfd), ("ydiaeresis", 0xff), ("yen", 0xa5),
   ("z", 0x7a)]

/-- The names of the Latin 2 characters. -/
def latin2 : List (String × Int) :=
  [("Abreve", 0x1c3), ("Aogonek", 0x1a1), ("Cacute", 0x1c6), ("Ccaron", 0x1c8), ("Dcaron", 0x1cf),
   ("Dstroke", 0x1d0), ("Ecaron", 0x1cc), ("Eogonek", 0x1ca), ("Lacute", 0x1c5), ("Lcaron", 0x1a5),
   ("Lstroke", 0x1a3), ("Nacute", 0x1d1), ("Ncaron", 0x1d2), ("Odoubleacute", 0x1d5),
   ("Racute", 0x1c0), ("Rcaron", 0x1d8), ("Sacute", 0x1a6), ("Scaron", 0x1a9), ("Scedilla", 0x1aa),
   ("Tcaron", 0x1ab), ("Tcedilla", 0x1de), ("Udoubleacute", 0x1db), ("Uring", 0x1d9),
   ("Zabovedot", 0x1af), ("Zacute", 0x1ac), ("Zcaron", 0x1ae), ("abovedot", 0x1ff),
   ("abreve", 0x1e3), ("aogonek", 0x1b1), ("breve", 0x1a2), ("cacute", 0x1e6), ("caron", 0x1b7),
   ("ccaron", 0x1e8), ("dcaron", 0x1ef), ("doubleacute", 0x1bd), ("dstroke", 0x1f0),
   ("ecaron", 0x1ec), ("eogonek", 0x1ea), ("lacute", 0x1e5), ("lcaron", 0x1b5), ("lstroke", 0x1b3),
   ("nacute", 0x1f1), ("ncaron", 0x1f2), ("odoubleacute", 0x1f5), ("ogonek", 0x1b2),
   ("racute", 0x1e0), ("rcaron", 0x1f8), ("sacute", 0x1b6), ("scaron", 0x1b9), ("scedilla", 0x1ba),
   ("tcaron", 0x1bb), ("tcedilla", 0x1fe), ("udoubleacute", 0x1fb), ("uring", 0x1f9),
   ("zabovedot", 0x1bf), ("zacute", 0x1bc), ("zcaron", 0x1be)]

/-- The names of the Latin 3 characters. -/
def latin3 : List (String × Int) :=
  [("Cabovedot", 0x2c5), ("Ccircumflex", 0x2c6), ("Gabovedot", 0x2d5), ("Gbreve", 0x2ab),
   ("Gcircumflex", 0x2d8), ("Hcircumflex", 0x2a6), ("Hstroke", 0x2a1), ("Iabovedot", 0x2a9),
   ("Jcircumflex", 0x2ac), ("Scircumflex", 0x2de), ("Ubreve", 0x2dd), ("cabovedot", 0x2e5),
   ("ccircumflex", 0x2e6), ("gabovedot", 0x2f5), ("gbreve", 0x2bb), ("gcircumflex", 0x2f8),
   ("hcircumflex", 0x2b6), ("hstroke", 0x2b1), ("idotless", 0x2b9), ("jcircumflex", 0x2bc),
   ("scircumflex", 0x2fe), ("ubreve", 0x2fd)]

/-- The names of the Latin 4 characters. -/
def latin4 : List (String × Int) :=
  [("Amacron", 0x3c0), ("ENG", 0x3bd), ("Eabovedot", 0x3cc), ("Emacron", 0x3aa),
   ("Gcedilla", 0x3ab), ("Imacron", 0x3cf), ("Iogonek", 0x3c7), ("Itilde", 0x3a5),
   ("Kcedilla", 0x3d3), ("Lcedilla", 0x3a6), ("Ncedilla", 0x3d1), ("Omacron", 0x3d2),
   ("Rcedilla", 0x3a3), ("Tslash", 0x3ac), ("Umacron", 0x3de), ("Uogonek", 0x3d9),
   ("Utilde", 0x3dd), ("amacron", 0x3e0), ("eabovedot", 0x3ec), ("emacron", 0x3ba), ("eng", 0x3bf),
   ("gcedilla", 0x3bb), ("imacron", 0x3ef), ("iogonek", 0x3e7), ("itilde", 0x3b5), ("kappa", 0x3a2),
   ("kcedilla", 0x3f3), ("kra", 0x3a2), ("lcedilla", 0x3b6), ("ncedilla", 0x3f1),
   ("omacron", 0x3f2), ("rcedilla", 0x3b3), ("tslash", 0x3bc), ("umacron", 0x3fe),
   ("uogonek", 0x3f9), ("utilde", 0x3fd)]

/-- The names of the Greek letters. -/
def greek : List (String × Int) :=
  [("Greek_ALPHA", 0x7c1), ("Greek_ALPHAaccent", 0x7a1), ("Greek_BETA", 0x7c2),
   ("Greek_CHI", 0x7d7), ("Greek_DELTA", 0x7c4), ("Greek_EPSILON", 0x7c5),
   ("Greek_EPSILONaccent", 0x7a2), ("Greek_ETA", 0x7c7), ("Greek_ETAaccent", 0x7a3),
   ("Greek_GAMMA", 0x7c3), ("Greek_IOTA", 0x7c9), ("Greek_IOTAaccent", 0x7a4),
   ("Greek_IOTAdiaeresis", 0x7a5), ("Greek_KAPPA", 0x7ca), ("Greek_LAMBDA", 0x7cb),
   ("Greek_LAMDA", 0x7cb), ("Greek_MU", 0x7cc), ("Greek_NU", 0x7cd), ("Greek_OMEGA", 0x7d9),
   ("Greek_OMEGAaccent", 0x7ab), ("Greek_OMICRON", 0x7cf), ("Greek_OMICRONaccent", 0x7a7),
   ("Greek_PHI", 0x7d6), ("Greek_PI", 0x7d0), ("Greek_PSI", 0x7d8), ("Greek_RHO", 0x7d1),
   ("Greek_SIGMA", 0x7d2), ("Greek_TAU", 0x7d4), ("Greek_THETA", 0x7c8), ("Greek_UPSILON", 0x7d5),
   ("Greek_UPSILONaccent", 0x7a8), ("Greek_UPSILONdieresis", 0x7a9), ("Greek_XI", 0x7ce),
   ("Greek_ZETA", 0x7c6), ("Greek_accentdieresis", 0x7ae), ("Greek_alpha", 0x7e1),
   ("Greek_alphaaccent", 0x7b1), ("Greek_beta", 0x7e2), ("Greek_chi", 0x7f7),
   ("Greek_delta", 0x7e4), ("Greek_epsilon", 0x7e5), ("Greek_epsilonaccent", 0x7b2),
   ("Greek_eta", 0x7e7), ("Greek_etaaccent", 0x7b3), ("Greek_finalsmallsigma", 0x7f3),
   ("Greek_gamma", 0x7e3), ("Greek_horizbar", 0x7af), ("Greek_iota", 0x7e9),
   ("Greek_iotaaccent", 0x7b4), ("Greek_iotaaccentdieresis", 0x7b6), ("Greek_iotadieresis", 0x7b5),
   ("Greek_kappa", 0x7ea), ("Greek_lambda", 0x7eb), ("Greek_lamda", 0x7eb), ("Greek_mu", 0x7ec),
   ("Greek_nu", 0x7ed), ("Greek_omega", 0x7f9), ("Greek_omegaaccent", 0x7bb),
   ("Greek_omicron", 0x7ef), ("Greek_omicronaccent", 0x7b7), ("Greek_phi", 0x7f6),
   ("Greek_pi", 0x7f0), ("Greek_psi", 0x7f8), ("Greek_rho", 0x7f1), ("Greek_sigma", 0x7f2),
   ("Greek_switch", 0xff7e), ("Greek_tau", 0x7f4), ("Greek_theta", 0x7e8), ("Greek_upsilon", 0x7f5),
   ("Greek_upsilonaccent", 0x7b8), ("Greek_upsilonaccentdieresis", 0x7ba),
   ("Greek_upsilondieresis", 0x7b9), ("Greek_xi", 0x7ee), ("Greek_zeta", 0x7e6)]

/-- The names of the Cyrillic letters. -/
def cyrillic : List (String × Int) :=
  [("Byelorussian_SHORTU", 0x6be), ("Byelorussian_shortu", 0x6ae), ("Cyrillic_A", 0x6e1),
   ("Cyrillic_BE", 0x6e2), ("Cyrillic_CHE", 0x6fe), ("Cyrillic_DE", 0x6e4),
   ("Cyrillic_DZHE", 0x6bf), ("Cyrillic_E", 0x6fc), ("Cyrillic_EF", 0x6e6), ("Cyrillic_EL", 0x6ec),
   ("Cyrillic_EM", 0x6ed), ("Cyrillic_EN", 0x6ee), ("Cyrillic_ER", 0x6f2), ("Cyrillic_ES", 0x6f3),
   ("Cyrillic_GHE", 0x6e7), ("Cyrillic_HA", 0x6e8), ("Cyrillic_HARDSIGN", 0x6ff),
   ("Cyrillic_I", 0x6e9), ("Cyrillic_IE", 0x6e5), ("Cyrillic_IO", 0x6b3), ("Cyrillic_JE", 0x6b8),
   ("Cyrillic_KA", 0x6eb), ("Cyrillic_LJE", 0x6b9), ("Cyrillic_NJE", 0x6ba), ("Cyrillic_O", 0x6ef),
   ("Cyrillic_PE", 0x6f0), ("Cyrillic_SHA", 0x6fb), ("Cyrillic_SHCHA", 0x6fd),
   ("Cyrillic_SHORTI", 0x6ea), ("Cyrillic_SOFTSIGN", 0x6f8), ("Cyrillic_TE", 0x6f4),
   ("Cyrillic_TSE", 0x6e3), ("Cyrillic_U", 0x6f5), ("Cyrillic_VE", 0x6f7), ("Cyrillic_YA", 0x6f1),
   ("Cyrillic_YERU", 0x6f9), ("Cyrillic_YU", 0x6e0), ("Cyrillic_ZE", 0x6fa),
   ("Cyrillic_ZHE", 0x6f6), ("Cyrillic_a", 0x6c1), ("Cyrillic_be", 0x6c2), ("Cyrillic_che", 0x6de),
   ("Cyrillic_de", 0x6c4), ("Cyrillic_dzhe", 0x6af), ("Cyrillic_e", 0x6dc), ("Cyrillic_ef", 0x6c6),
   ("Cyrillic_el", 0x6cc), ("Cyrillic_em", 0x6cd), ("Cyrillic_en", 0x6ce), ("Cyrillic_er", 0x6d2),
   ("Cyrillic_es", 0x6d3), ("Cyrillic_ghe", 0x6c7), ("Cyrillic_ha", 0x6c8),
   ("Cyrillic_hardsign", 0x6df), ("Cyrillic_i", 0x6c9), ("Cyrillic_ie", 0x6c5),
   ("Cyrillic_io", 0x6a3), ("Cyrillic_je", 0x6a8), ("Cyrillic_ka", 0x6cb), ("Cyrillic_lje", 0x6a9),
   ("Cyrillic_nje", 0x6aa), ("Cyrillic_o", 0x6cf), ("Cyrillic_pe", 0x6d0), ("Cyrillic_sha", 0x6db),
   ("Cyrillic_shcha", 0x6dd), ("Cyrillic_shorti", 0x6ca), ("Cyrillic_softsign", 0x6d8),
   ("Cyrillic_te", 0x6d4), ("Cyrillic_tse", 0x6c3), ("Cyrillic_u", 0x6d5), ("Cyrillic_ve", 0x6d7),
   ("Cyrillic_ya", 0x6d1), ("Cyrillic_yeru", 0x6d9), ("Cyrillic_yu", 0x6c0), ("Cyrillic_ze", 0x6da),
   ("Cyrillic_zhe", 0x6d6), ("Macedonia_DSE", 0x6b5), ("Macedonia_GJE", 0x6b2),
   ("Macedonia_KJE", 0x6bc), ("Macedonia_dse", 0x6a5), ("Macedonia_gje", 0x6a2),
   ("Macedonia_kje", 0x6ac), ("Serbian_DJE", 0x6b1), ("Serbian_DZE", 0x6bf), ("Serbian_JE", 0x6b8),
   ("Serbian_LJE", 0x6b9), ("Serbian_NJE", 0x6ba), ("Serbian_TSHE", 0x6bb), ("Serbian_dje", 0x6a1),
   ("Serbian_dze", 0x6af), ("Serbian_je", 0x6a8), ("Serbian_lje", 0x6a9), ("Serbian_nje", 0x6aa),
   ("Serbian_tshe", 0x6ab), ("Ukrainian_I", 0x6b6), ("Ukrainian_IE", 0x6b4),
   ("Ukrainian_YI", 0x6b7), ("Ukrainian_i", 0x6a6), ("Ukrainian_ie", 0x6a4),
   ("Ukrainian_yi", 0x6a7), ("Ukranian_I", 0x6b6), ("Ukranian_JE", 0x6b4), ("Ukranian_YI", 0x6b7),
   ("Ukranian_i", 0x6a6), ("Ukranian_je", 0x6a4), ("Ukranian_yi", 0x6a7), ("numerosign", 0x6b0)]

/-- The names of the technical signs. -/
def technical : List (String × Int) :=
  [("approximate", 0x8c8), ("botintegral", 0x8a5), ("botleftparens", 0x8ac),
   ("botleftsqbracket", 0x8a8), ("botleftsummation", 0x8b2), ("botrightparens", 0x8ae),
   ("botrightsqbracket", 0x8aa), ("botrightsummation", 0x8b6), ("botvertsummationconnector", 0x8b4),
   ("downarrow", 0x8fe), ("function", 0x8f6), ("greaterthanequal", 0x8be),
   ("horizconnector", 0x8a3), ("identical", 0x8cf), ("ifonlyif", 0x8cd), ("implies", 0x8ce),
   ("includedin", 0x8da), ("includes", 0x8db), ("infinity", 0x8c2), ("integral", 0x8bf),
   ("intersection", 0x8dc), ("leftarrow", 0x8fb), ("leftmiddlecurlybrace", 0x8af),
   ("leftradical", 0x8a1), ("lessthanequal", 0x8bc), ("logicaland", 0x8de), ("logicalor", 0x8df),
   ("nabla", 0x8c5), ("notequal", 0x8bd), ("partialderivative", 0x8ef), ("radical", 0x8d6),
   ("rightarrow", 0x8fd), ("rightmiddlecurlybrace", 0x8b0), ("rightmiddlesummation", 0x8b7),
   ("similarequal", 0x8c9), ("therefore", 0x8c0), ("topintegral", 0x8a4), ("topleftparens", 0x8ab),
   ("topleftradical", 0x8a2), ("topleftsqbracket", 0x8a7), ("topleftsummation", 0x8b1),
   ("toprightparens", 0x8ad), ("toprightsqbracket", 0x8a9), ("toprightsummation", 0x8b5),
   ("topvertsummationconnector", 0x8b3), ("union", 0x8dd), ("uparrow", 0x8fc), ("variation", 0x8c1),
   ("vertconnector", 0x8a6)]

/-- The names of the line-drawing signs. -/
def special : List (String × Int) :=
  [("blank", 0x9df), ("bott", 0x9f6), ("checkerboard", 0x9e1), ("cr", 0x9e4),
   ("crossinglines", 0x9ee), ("ff", 0x9e3), ("horizlinescan1", 0x9ef), ("horizlinescan3", 0x9f0),
   ("horizlinescan5", 0x9f1), ("horizlinescan7", 0x9f2), ("horizlinescan9", 0x9f3), ("ht", 0x9e2),
   ("leftt", 0x9f4), ("lf", 0x9e5), ("lowleftcorner", 0x9ed), ("lowrightcorner", 0x9ea),
   ("nl", 0x9e8), ("rightt", 0x9f5), ("soliddiamond", 0x9e0), ("topt", 0x9f7),
   ("upleftcorner", 0x9ec), ("uprightcorner", 0x9eb), ("vertbar", 0x9f8), ("vt", 0x9e9)]

/-- The names of the publishing signs. -/
def publishing : List (String × Int) :=
  [("ballotcross", 0xaf4), ("careof", 0xab8), ("caret", 0xafc), ("checkmark", 0xaf3),
   ("club", 0xaec), ("cursor", 0xaff), ("dagger", 0xaf1), ("decimalpoint", 0xabd),
   ("diamond", 0xaed), ("digitspace", 0xaa5), ("doubbaselinedot", 0xaaf), ("doubledagger", 0xaf2),
   ("doublelowquotemark", 0xafe), ("ellipsis", 0xaae), ("em3space", 0xaa3), ("em4space", 0xaa4),
   ("emdash", 0xaa9), ("emfilledcircle", 0xade), ("emfilledrect", 0xadf), ("emopencircle", 0xace),
   ("emopenrectangle", 0xacf), ("emspace", 0xaa1), ("endash", 0xaaa), ("enfilledcircbullet", 0xae6),
   ("enfilledsqbullet", 0xae7), ("enopencircbullet", 0xae0), ("enopensquarebullet", 0xae1),
   ("enspace", 0xaa2), ("femalesymbol", 0xaf8), ("figdash", 0xabb), ("filledlefttribullet", 0xadc),
   ("filledrectbullet", 0xadb), ("filledrighttribullet", 0xadd), ("filledtribulletdown", 0xae9),
   ("filledtribulletup", 0xae8), ("fiveeighths", 0xac5), ("fivesixths", 0xab7),
   ("fourfifths", 0xab5), ("hairspace", 0xaa8), ("heart", 0xaee), ("hexagram", 0xada),
   ("latincross", 0xad9), ("leftanglebracket", 0xabc), ("leftdoublequotemark", 0xad2),
   ("leftopentriangle", 0xacc), ("leftpointer", 0xaea), ("leftsinglequotemark", 0xad0),
   ("malesymbol", 0xaf7), ("maltesecross", 0xaf0), ("marker", 0xabf), ("minutes", 0xad6),
   ("musicalflat", 0xaf6), ("musicalsharp", 0xaf5), ("oneeighth", 0xac3), ("onefifth", 0xab2),
   ("onesixth", 0xab6), ("onethird", 0xab0), ("openrectbullet", 0xae2), ("openstar", 0xae5),
   ("opentribulletdown", 0xae4), ("opentribulletup", 0xae3), ("phonographcopyright", 0xafb),
   ("prescription", 0xad4), ("punctspace", 0xaa6), ("rightanglebracket", 0xabe),
   ("rightdoublequotemark", 0xad3), ("rightopentriangle", 0xacd), ("rightpointer", 0xaeb),
   ("rightsinglequotemark", 0xad1), ("seconds", 0xad7), ("seveneighths", 0xac6),
   ("signaturemark", 0xaca), ("signifblank", 0xaac), ("singlelowquotemark", 0xafd),
   ("telephone", 0xaf9), ("telephonerecorder", 0xafa), ("thinspace", 0xaa7),
   ("threeeighths", 0xac4), ("threefifths", 0xab4), ("trademark", 0xac9),
   ("trademarkincircle", 0xacb), ("twofifths", 0xab3), ("twothirds", 0xab1)]

/-- The names of the keyboard extension keys. -/
def extension : List (String × Int) :=
  [("AccessX_Enable", 0xfe70), ("AccessX_Feedback_Enable", 0xfe71), ("AudibleBell_Enable", 0xfe7a),
   ("BounceKeys_Enable", 0xfe74), ("First_Virtual_Screen", 0xfed0), ("ISO_Center_Object", 0xfe33),
   ("ISO_Continuous_Underline", 0xfe30), ("ISO_Discontinuous_Underline", 0xfe31),
   ("ISO_Emphasize", 0xfe32), ("ISO_Enter", 0xfe34), ("ISO_Fast_Cursor_Down", 0xfe2f),
   ("ISO_Fast_Cursor_Left", 0xfe2c), ("ISO_Fast_Cursor_Right", 0xfe2d),
   ("ISO_Fast_Cursor_Up", 0xfe2e), ("ISO_First_Group", 0xfe0c), ("ISO_First_Group_Lock", 0xfe0d),
   ("ISO_Group_Latch", 0xfe06), ("ISO_Group_Lock", 0xfe07), ("ISO_Group_Shift", 0xff7e),
   ("ISO_Last_Group", 0xfe0e), ("ISO_Last_Group_Lock", 0xfe0f), ("ISO_Left_Tab", 0xfe20),
   ("ISO_Level2_Latch", 0xfe02), ("ISO_Level3_Latch", 0xfe04), ("ISO_Level3_Lock", 0xfe05),
   ("ISO_Level3_Shift", 0xfe03), ("ISO_Lock", 0xfe01), ("ISO_Move_Line_Down", 0xfe22),
   ("ISO_Move_Line_Up", 0xfe21), ("ISO_Next_Group", 0xfe08), ("ISO_Next_Group_Lock", 0xfe09),
   ("ISO_Partial_Line_Down", 0xfe24), ("ISO_Partial_Line_Up", 0xfe23),
   ("ISO_Partial_Space_Left", 0xfe25), ("ISO_Partial_Space_Right", 0xfe26),
   ("ISO_Prev_Group", 0xfe0a), ("ISO_Prev_Group_Lock", 0xfe0b),
   ("ISO_Release_Both_Margins", 0xfe2b), ("ISO_Release_Margin_Left", 0xfe29),
   ("ISO_Release_Margin_Right", 0xfe2a), ("ISO_Set_Margin_Left", 0xfe27),
   ("ISO_Set_Margin_Right", 0xfe28), ("Last_Virtual_Screen", 0xfed4),
   ("MouseKeys_Accel_Enable", 0xfe77), ("MouseKeys_Enable", 0xfe76),
   ("Next_Virtual_Screen", 0xfed2), ("Overlay1_Enable", 0xfe78), ("Overlay2_Enable", 0xfe79),
   ("Pointer_Accelerate", 0xfefa), ("Pointer_Button1", 0xfee9), ("Pointer_Button2", 0xfeea),
   ("Pointer_Button3", 0xfeeb), ("Pointer_Button4", 0xfeec), ("Pointer_Button5", 0xfeed),
   ("Pointer_Button_Dflt", 0xfee8), ("Pointer_DblClick1", 0xfeef), ("Pointer_DblClick2", 0xfef0),
   ("Pointer_DblClick3", 0xfef1), ("Pointer_DblClick4", 0xfef2), ("Pointer_DblClick5", 0xfef3),
   ("Pointer_DblClick_Dflt", 0xfeee), ("Pointer_DfltBtnNext", 0xfefb),
   ("Pointer_DfltBtnPrev", 0xfefc), ("Pointer_Down", 0xfee3), ("Pointer_DownLeft", 0xfee6),
   ("Pointer_DownRight", 0xfee7), ("Pointer_Drag1", 0xfef5), ("Pointer_Drag2", 0xfef6),
   ("Pointer_Drag3", 0xfef7), ("Pointer_Drag4", 0xfef8), ("Pointer_Drag5", 0xfefd),
   ("Pointer_Drag_Dflt", 0xfef4), ("Pointer_EnableKeys", 0xfef9), ("Pointer_Left", 0xfee0),
   ("Pointer_Right", 0xfee1), ("Pointer_Up", 0xfee2), ("Pointer_UpLeft", 0xfee4),
   ("Pointer_UpRight", 0xfee5), ("Prev_Virtual_Screen", 0xfed1), ("RepeatKeys_Enable", 0xfe72),
   ("SlowKeys_Enable", 0xfe73), ("StickyKeys_Enable", 0xfe75), ("Terminate_Server", 0xfed5),
   ("dead_abovedot", 0xfe56), ("dead_abovering", 0xfe58), ("dead_acute", 0xfe51),
   ("dead_belowdot", 0xfe60), ("dead_breve", 0xfe55), ("dead_caron", 0xfe5a),
   ("dead_cedilla", 0xfe5b), ("dead_circumflex", 0xfe52), ("dead_diaeresis", 0xfe57),
   ("dead_doubleacute", 0xfe59), ("dead_grave", 0xfe50), ("dead_iota", 0xfe5d),
   ("dead_macron", 0xfe54), ("dead_ogonek", 0xfe5c), ("dead_semivoiced_sound", 0xfe5f),
   ("dead_tilde", 0xfe53), ("dead_voiced_sound", 0xfe5e)]

/-- The names of the vendor keys. -/
def vendor : List (String × Int) :=
  [("XF86_AddFavorite", 0x1008ff39), ("XF86_ApplicationLeft", 0x1008ff50),
   ("XF86_ApplicationRight", 0x1008ff51), ("XF86_AudioCycleTrack", 0x1008ff9b),
   ("XF86_AudioForward", 0x1008ff97), ("XF86_AudioLowerVolume", 0x1008ff11),
   ("XF86_AudioMedia", 0x1008ff32), ("XF86_AudioMicMute", 0x1008ffb2),
   ("XF86_AudioMute", 0x1008ff12), ("XF86_AudioNext", 0x1008ff17), ("XF86_AudioPause", 0x1008ff31),
   ("XF86_AudioPlay", 0x1008ff14), ("XF86_AudioPreset", 0x1008ffb6), ("XF86_AudioPrev", 0x1008ff16),
   ("XF86_AudioRaiseVolume", 0x1008ff13), ("XF86_AudioRandomPlay", 0x1008ff99),
   ("XF86_AudioRecord", 0x1008ff1c), ("XF86_AudioRepeat", 0x1008ff98),
   ("XF86_AudioRewind", 0x1008ff3e), ("XF86_AudioStop", 0x1008ff15), ("XF86_Away", 0x1008ff8d),
   ("XF86_Back", 0x1008ff26), ("XF86_Battery", 0x1008ff93), ("XF86_Blue", 0x1008ffa6),
   ("XF86_Bluetooth", 0x1008ff94), ("XF86_Book", 0x1008ff52), ("XF86_BrightnessAdjust", 0x1008ff3b),
   ("XF86_CD", 0x1008ff53), ("XF86_Calculater", 0x1008ff54), ("XF86_Calculator", 0x1008ff1d),
   ("XF86_Calendar", 0x1008ff20), ("XF86_Clear", 0x1008ff55), ("XF86_ClearGrab", 0x1008fe21),
   ("XF86_Close", 0x1008ff56), ("XF86_Community", 0x1008ff3d), ("XF86_ContrastAdjust", 0x1008ff22),
   ("XF86_Copy", 0x1008ff57), ("XF86_Cut", 0x1008ff58), ("XF86_CycleAngle", 0x1008ff9c),
   ("XF86_DOS", 0x1008ff5a), ("XF86_Display", 0x1008ff59), ("XF86_Documents", 0x1008ff5b),
   ("XF86_Eject", 0x1008ff2c), ("XF86_Excel", 0x1008ff5c), ("XF86_Explorer", 0x1008ff5d),
   ("XF86_Favorites", 0x1008ff30), ("XF86_Finance", 0x1008ff3c), ("XF86_Forward", 0x1008ff27),
   ("XF86_FrameBack", 0x1008ff9d), ("XF86_FrameForward", 0x1008ff9e),
   ("XF86_FullScreen", 0x1008ffb8), ("XF86_Game", 0x1008ff5e), ("XF86_Go", 0x1008ff5f),
   ("XF86_Green", 0x1008ffa4), ("XF86_Hibernate", 0x1008ffa8), ("XF86_History", 0x1008ff37),
   ("XF86_HomePage", 0x1008ff18), ("XF86_HotLinks", 0x1008ff3a),
   ("XF86_KbdBrightnessDown", 0x1008ff06), ("XF86_KbdBrightnessUp", 0x1008ff05),
   ("XF86_KbdLightOnOff", 0x1008ff04), ("XF86_Keyboard", 0x1008ffb3), ("XF86_Launch0", 0x1008ff40),
   ("XF86_Launch1", 0x1008ff41), ("XF86_Launch2", 0x1008ff42), ("XF86_Launch3", 0x1008ff43),
   ("XF86_Launch4", 0x1008ff44), ("XF86_Launch5", 0x1008ff45), ("XF86_Launch6", 0x1008ff46),
   ("XF86_Launch7", 0x1008ff47), ("XF86_Launch8", 0x1008ff48), ("XF86_Launch9", 0x1008ff49),
   ("XF86_LaunchA", 0x1008ff4a), ("XF86_LaunchB", 0x1008ff4b), ("XF86_LaunchC", 0x1008ff4c),
   ("XF86_LaunchD", 0x1008ff4d), ("XF86_LaunchE", 0x1008ff4e), ("XF86_LaunchF", 0x1008ff4f),
   ("XF86_LightBulb", 0x1008ff35), ("XF86_LogGrabInfo", 0x1008fe25), ("XF86_LogOff", 0x1008ff61),
   ("XF86_LogWindowTree", 0x1008fe24), ("XF86_Mail", 0x1008ff19), ("XF86_MailForward", 0x1008ff90),
   ("XF86_Market", 0x1008ff62), ("XF86_Meeting", 0x1008ff63), ("XF86_Memo", 0x1008ff1e),
   ("XF86_MenuKB", 0x1008ff65), ("XF86_MenuPB", 0x1008ff66), ("XF86_Messenger", 0x1008ff8e),
   ("XF86_ModeLock", 0x1008ff01), ("XF86_MonBrightnessCycle", 0x1008ff07),
   ("XF86_MonBrightnessDown", 0x1008ff03), ("XF86_MonBrightnessUp", 0x1008ff02),
   ("XF86_Music", 0x1008ff92), ("XF86_MyComputer", 0x1008ff33), ("XF86_MySites", 0x1008ff67),
   ("XF86_New", 0x1008ff68), ("XF86_News", 0x1008ff69), ("XF86_Next_VMode", 0x1008fe22),
   ("XF86_OfficeHome", 0x1008ff6a), ("XF86_Open", 0x1008ff6b), ("XF86_OpenURL", 0x1008ff38),
   ("XF86_Option", 0x1008ff6c), ("XF86_Paste", 0x1008ff6d), ("XF86_Phone", 0x1008ff6e),
   ("XF86_Pictures", 0x1008ff91), ("XF86_PowerDown", 0x1008ff21), ("XF86_PowerOff", 0x1008ff2a),
   ("XF86_Prev_VMode", 0x1008fe23), ("XF86_Q", 0x1008ff70), ("XF86_RFKill", 0x1008ffb5),
   ("XF86_Red", 0x1008ffa3), ("XF86_Refresh", 0x1008ff29), ("XF86_Reload", 0x1008ff73),
   ("XF86_Reply", 0x1008ff72), ("XF86_RockerDown", 0x1008ff24), ("XF86_RockerEnter", 0x1008ff25),
   ("XF86_RockerUp", 0x1008ff23), ("XF86_RotateWindows", 0x1008ff74),
   ("XF86_RotationKB", 0x1008ff76), ("XF86_RotationLockToggle", 0x1008ffb7),
   ("XF86_RotationPB", 0x1008ff75), ("XF86_Save", 0x1008ff77), ("XF86_ScreenSaver", 0x1008ff2d),
   ("XF86_ScrollClick", 0x1008ff7a), ("XF86_ScrollDown", 0x1008ff79), ("XF86_ScrollUp", 0x1008ff78),
   ("XF86_Search", 0x1008ff1b), ("XF86_Select", 0x1008ffa0), ("XF86_Send", 0x1008ff7b),
   ("XF86_Shop", 0x1008ff36), ("XF86_Sleep", 0x1008ff2f), ("XF86_Spell", 0x1008ff7c),
   ("XF86_SplitScreen", 0x1008ff7d), ("XF86_Standby", 0x1008ff10), ("XF86_Start", 0x1008ff1a),
   ("XF86_Stop", 0x1008ff28), ("XF86_Subtitle", 0x1008ff9a), ("XF86_Support", 0x1008ff7e),
   ("XF86_Suspend", 0x1008ffa7), ("XF86_Switch_VT_1", 0x1008fe01),
   ("XF86_Switch_VT_10", 0x1008fe0a), ("XF86_Switch_VT_11", 0x1008fe0b),
   ("XF86_Switch_VT_12", 0x1008fe0c), ("XF86_Switch_VT_2", 0x1008fe02),
   ("XF86_Switch_VT_3", 0x1008fe03), ("XF86_Switch_VT_4", 0x1008fe04),
   ("XF86_Switch_VT_5", 0x1008fe05), ("XF86_Switch_VT_6", 0x1008fe06),
   ("XF86_Switch_VT_7", 0x1008fe07), ("XF86_Switch_VT_8", 0x1008fe08),
   ("XF86_Switch_VT_9", 0x1008fe09), ("XF86_TaskPane", 0x1008ff7f), ("XF86_Terminal", 0x1008ff80),
   ("XF86_Time", 0x1008ff9f), ("XF86_ToDoList", 0x1008ff1f), ("XF86_Tools", 0x1008ff81),
   ("XF86_TopMenu", 0x1008ffa2), ("XF86_TouchpadOff", 0x1008ffb1), ("XF86_TouchpadOn", 0x1008ffb0),
   ("XF86_TouchpadToggle", 0x1008ffa9), ("XF86_Travel", 0x1008ff82), ("XF86_UWB", 0x1008ff96),
   ("XF86_Ungrab", 0x1008fe20), ("XF86_User1KB", 0x1008ff85), ("XF86_User2KB", 0x1008ff86),
   ("XF86_UserPB", 0x1008ff84), ("XF86_VendorHome", 0x1008ff34), ("XF86_Video", 0x1008ff87),
   ("XF86_View", 0x1008ffa1), ("XF86_WLAN", 0x1008ff95), ("XF86_WWAN", 0x1008ffb4),
   ("XF86_WWW", 0x1008ff2e), ("XF86_WakeUp", 0x1008ff2b), ("XF86_WebCam", 0x1008ff8f),
   ("XF86_WheelButton", 0x1008ff88), ("XF86_Word", 0x1008ff89),
   ("XF86_XF86BackForward", 0x1008ff3f), ("XF86_Xfer", 0x1008ff8a), ("XF86_Yellow", 0x1008ffa5),
   ("XF86_ZoomIn", 0x1008ff8b), ("XF86_ZoomOut", 0x1008ff8c), ("XF86_iTouch", 0x1008ff60)]

/-- All names in order. -/
def names : List (String × Int) :=
  miscellany ++
    latin1 ++
    latin2 ++
    latin3 ++
    latin4 ++
    greek ++
    cyrillic ++
    technical ++
    special ++
    publishing ++
    extension ++
    vendor

end JogShuttle.Keysym
