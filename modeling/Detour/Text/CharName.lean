import Detour.Text.CharClass

/-!
# Names of characters

The Unicode names of the characters in common use: Latin, Greek and Cyrillic letters,
punctuation, currency, arrows and operators. Names are compared without regard to case, and the
ideographs are named by their code points.
-/
namespace Detour.Text

def charNames : List (Nat × String) :=
  [(0, "NULL"), (7, "ALERT"), (8, "BACKSPACE"), (9, "CHARACTER TABULATION"), (10, "LINE FEED"),
   (11, "LINE TABULATION"), (12, "FORM FEED"), (13, "CARRIAGE RETURN"), (27, "ESCAPE"),
   (127, "DELETE"), (133, "NEXT LINE"), (32, "SPACE"), (33, "EXCLAMATION MARK"),
   (34, "QUOTATION MARK"), (35, "NUMBER SIGN"), (36, "DOLLAR SIGN"), (37, "PERCENT SIGN"),
   (38, "AMPERSAND"), (39, "APOSTROPHE"), (40, "LEFT PARENTHESIS"), (41, "RIGHT PARENTHESIS"),
   (42, "ASTERISK"), (43, "PLUS SIGN"), (44, "COMMA"), (45, "HYPHEN-MINUS"), (46, "FULL STOP"),
   (47, "SOLIDUS"), (48, "DIGIT ZERO"), (49, "DIGIT ONE"), (50, "DIGIT TWO"), (51, "DIGIT THREE"),
   (52, "DIGIT FOUR"), (53, "DIGIT FIVE"), (54, "DIGIT SIX"), (55, "DIGIT SEVEN"),
   (56, "DIGIT EIGHT"), (57, "DIGIT NINE"), (58, "COLON"), (59, "SEMICOLON"),
   (60, "LESS-THAN SIGN"), (61, "EQUALS SIGN"), (62, "GREATER-THAN SIGN"), (63, "QUESTION MARK"),
   (64, "COMMERCIAL AT"), (65, "LATIN CAPITAL LETTER A"), (66, "LATIN CAPITAL LETTER B"),
   (67, "LATIN CAPITAL LETTER C"), (68, "LATIN CAPITAL LETTER D"), (69, "LATIN CAPITAL LETTER E"),
   (70, "LATIN CAPITAL LETTER F"), (71, "LATIN CAPITAL LETTER G"), (72, "LATIN CAPITAL LETTER H"),
   (73, "LATIN CAPITAL LETTER I"), (74, "LATIN CAPITAL LETTER J"), (75, "LATIN CAPITAL LETTER K"),
   (76, "LATIN CAPITAL LETTER L"), (77, "LATIN CAPITAL LETTER M"), (78, "LATIN CAPITAL LETTER N"),
   (79, "LATIN CAPITAL LETTER O"), (80, "LATIN CAPITAL LETTER P"), (81, "LATIN CAPITAL LETTER Q"),
   (82, "LATIN CAPITAL LETTER R"), (83, "LATIN CAPITAL LETTER S"), (84, "LATIN CAPITAL LETTER T"),
   (85, "LATIN CAPITAL LETTER U"), (86, "LATIN CAPITAL LETTER V"), (87, "LATIN CAPITAL LETTER W"),
   (88, "LATIN CAPITAL LETTER X"), (89, "LATIN CAPITAL LETTER Y"), (90, "LATIN CAPITAL LETTER Z"),
   (91, "LEFT SQUARE BRACKET"), (92, "REVERSE SOLIDUS"), (93, "RIGHT SQUARE BRACKET"),
   (94, "CIRCUMFLEX ACCENT"), (95, "LOW LINE"), (96, "GRAVE ACCENT"), (97, "LATIN SMALL LETTER A"),
   (98, "LATIN SMALL LETTER B"), (99, "LATIN SMALL LETTER C"), (100, "LATIN SMALL LETTER D"),
   (101, "LATIN SMALL LETTER E"), (102, "LATIN SMALL LETTER F"), (103, "LATIN SMALL LETTER G"),
   (104, "LATIN SMALL LETTER H"), (105, "LATIN SMALL LETTER I"), (106, "LATIN SMALL LETTER J"),
   (107, "LATIN SMALL LETTER K"), (108, "LATIN SMALL LETTER L"), (109, "LATIN SMALL LETTER M"),
   (110, "LATIN SMALL LETTER N"), (111, "LATIN SMALL LETTER O"), (112, "LATIN SMALL LETTER P"),
   (113, "LATIN SMALL LETTER Q"), (114, "LATIN SMALL LETTER R"), (115, "LATIN SMALL LETTER S"),
   (116, "LATIN SMALL LETTER T"), (117, "LATIN SMALL LETTER U"), (118, "LATIN SMALL LETTER V"),
   (119, "LATIN SMALL LETTER W"), (120, "LATIN SMALL LETTER X"), (121, "LATIN SMALL LETTER Y"),
   (122, "LATIN SMALL LETTER Z"), (123, "LEFT CURLY BRACKET"), (124, "VERTICAL LINE"),
   (125, "RIGHT CURLY BRACKET"), (126, "TILDE"), (160, "NO-BREAK SPACE"),
   (161, "INVERTED EXCLAMATION MARK"), (162, "CENT SIGN"), (163, "POUND SIGN"),
   (164, "CURRENCY SIGN"), (165, "YEN SIGN"), (166, "BROKEN BAR"), (167, "SECTION SIGN"),
   (168, "DIAERESIS"), (169, "COPYRIGHT SIGN"), (170, "FEMININE ORDINAL INDICATOR"),
   (171, "LEFT-POINTING DOUBLE ANGLE QUOTATION MARK"), (172, "NOT SIGN"), (173, "SOFT HYPHEN"),
   (174, "REGISTERED SIGN"), (175, "MACRON"), (176, "DEGREE SIGN"), (177, "PLUS-MINUS SIGN"),
   (178, "SUPERSCRIPT TWO"), (179, "SUPERSCRIPT THREE"), (180, "ACUTE ACCENT"),
   (181, "MICRO SIGN"), (182, "PILCROW SIGN"), (183, "MIDDLE DOT"), (184, "CEDILLA"),
   (185, "SUPERSCRIPT ONE"), (186, "MASCULINE ORDINAL INDICATOR"),
   (187, "RIGHT-POINTING DOUBLE ANGLE QUOTATION MARK"), (188, "VULGAR FRACTION ONE QUARTER"),
   (189, "VULGAR FRACTION ONE HALF"), (190, "VULGAR FRACTION THREE QUARTERS"),
   (191, "INVERTED QUESTION MARK"), (192, "LATIN CAPITAL LETTER A WITH GRAVE"),
   (193, "LATIN CAPITAL LETTER A WITH ACUTE"), (194, "LATIN CAPITAL LETTER A WITH CIRCUMFLEX"),
   (195, "LATIN CAPITAL LETTER A WITH TILDE"), (196, "LATIN CAPITAL LETTER A WITH DIAERESIS"),
   (197, "LATIN CAPITAL LETTER A WITH RING ABOVE"), (198, "LATIN CAPITAL LETTER AE"),
   (199, "LATIN CAPITAL LETTER C WITH CEDILLA"), (200, "LATIN CAPITAL LETTER E WITH GRAVE"),
   (201, "LATIN CAPITAL LETTER E WITH ACUTE"), (202, "LATIN CAPITAL LETTER E WITH CIRCUMFLEX"),
   (203, "LATIN CAPITAL LETTER E WITH DIAERESIS"), (204, "LATIN CAPITAL LETTER I WITH GRAVE"),
   (205, "LATIN CAPITAL LETTER I WITH ACUTE"), (206, "LATIN CAPITAL LETTER I WITH CIRCUMFLEX"),
   (207, "LATIN CAPITAL LETTER I WITH DIAERESIS"), (208, "LATIN CAPITAL LETTER ETH"),
   (209, "LATIN CAPITAL LETTER N WITH TILDE"), (210, "LATIN CAPITAL LETTER O WITH GRAVE"),
   (211, "LATIN CAPITAL LETTER O WITH ACUTE"), (212, "LATIN CAPITAL LETTER O WITH CIRCUMFLEX"),
   (213, "LATIN CAPITAL LETTER O WITH TILDE"), (214, "LATIN CAPITAL LETTER O WITH DIAERESIS"),
   (215, "MULTIPLICATION SIGN"), (216, "LATIN CAPITAL LETTER O WITH STROKE"),
   (217, "LATIN CAPITAL LETTER U WITH GRAVE"), (218, "LATIN CAPITAL LETTER U WITH ACUTE"),
   (219, "LATIN CAPITAL LETTER U WITH CIRCUMFLEX"), (220, "LATIN CAPITAL LETTER U WITH DIAERESIS"),
   (221, "LATIN CAPITAL LETTER Y WITH ACUTE"), (222, "LATIN CAPITAL LETTER THORN"),
   (223, "LATIN SMALL LETTER SHARP S"), (224, "LATIN SMALL LETTER A WITH GRAVE"),
   (225, "LATIN SMALL LETTER A WITH ACUTE"), (226, "LATIN SMALL LETTER A WITH CIRCUMFLEX"),
   (227, "LATIN SMALL LETTER A WITH TILDE"), (228, "LATIN SMALL LETTER A WITH DIAERESIS"),
   (229, "LATIN SMALL LETTER A WITH RING ABOVE"), (230, "LATIN SMALL LETTER AE"),
   (231, "LATIN SMALL LETTER C WITH CEDILLA"), (232, "LATIN SMALL LETTER E WITH GRAVE"),
   (233, "LATIN SMALL LETTER E WITH ACUTE"), (234, "LATIN SMALL LETTER E WITH CIRCUMFLEX"),
   (235, "LATIN SMALL LETTER E WITH DIAERESIS"), (236, "LATIN SMALL LETTER I WITH GRAVE"),
   (237, "LATIN SMALL LETTER I WITH ACUTE"), (238, "LATIN SMALL LETTER I WITH CIRCUMFLEX"),
   (239, "LATIN SMALL LETTER I WITH DIAERESIS"), (240, "LATIN SMALL LETTER ETH"),
   (241, "LATIN SMALL LETTER N WITH TILDE"), (242, "LATIN SMALL LETTER O WITH GRAVE"),
   (243, "LATIN SMALL LETTER O WITH ACUTE"), (244, "LATIN SMALL LETTER O WITH CIRCUMFLEX"),
   (245, "LATIN SMALL LETTER O WITH TILDE"), (246, "LATIN SMALL LETTER O WITH DIAERESIS"),
   (247, "DIVISION SIGN"), (248, "LATIN SMALL LETTER O WITH STROKE"),
   (249, "LATIN SMALL LETTER U WITH GRAVE"), (250, "LATIN SMALL LETTER U WITH ACUTE"),
   (251, "LATIN SMALL LETTER U WITH CIRCUMFLEX"), (252, "LATIN SMALL LETTER U WITH DIAERESIS"),
   (253, "LATIN SMALL LETTER Y WITH ACUTE"), (254, "LATIN SMALL LETTER THORN"),
   (255, "LATIN SMALL LETTER Y WITH DIAERESIS"), (256, "LATIN CAPITAL LETTER A WITH MACRON"),
   (257, "LATIN SMALL LETTER A WITH MACRON"), (258, "LATIN CAPITAL LETTER A WITH BREVE"),
   (259, "LATIN SMALL LETTER A WITH BREVE"), (260, "LATIN CAPITAL LETTER A WITH OGONEK"),
   (261, "LATIN SMALL LETTER A WITH OGONEK"), (262, "LATIN CAPITAL LETTER C WITH ACUTE"),
   (263, "LATIN SMALL LETTER C WITH ACUTE"), (264, "LATIN CAPITAL LETTER C WITH CIRCUMFLEX"),
   (265, "LATIN SMALL LETTER C WITH CIRCUMFLEX"), (266, "LATIN CAPITAL LETTER C WITH DOT ABOVE"),
   (267, "LATIN SMALL LETTER C WITH DOT ABOVE"), (268, "LATIN CAPITAL LETTER C WITH CARON"),
   (269, "LATIN SMALL LETTER C WITH CARON"), (270, "LATIN CAPITAL LETTER D WITH CARON"),
   (271, "LATIN SMALL LETTER D WITH CARON"), (272, "LATIN CAPITAL LETTER D WITH STROKE"),
   (273, "LATIN SMALL LETTER D WITH STROKE"), (274, "LATIN CAPITAL LETTER E WITH MACRON"),
   (275, "LATIN SMALL LETTER E WITH MACRON"), (276, "LATIN CAPITAL LETTER E WITH BREVE"),
   (277, "LATIN SMALL LETTER E WITH BREVE"), (278, "LATIN CAPITAL LETTER E WITH DOT ABOVE"),
   (279, "LATIN SMALL LETTER E WITH DOT ABOVE"), (280, "LATIN CAPITAL LETTER E WITH OGONEK"),
   (281, "LATIN SMALL LETTER E WITH OGONEK"), (282, "LATIN CAPITAL LETTER E WITH CARON"),
   (283, "LATIN SMALL LETTER E WITH CARON"), (284, "LATIN CAPITAL LETTER G WITH CIRCUMFLEX"),
   (285, "LATIN SMALL LETTER G WITH CIRCUMFLEX"), (286, "LATIN CAPITAL LETTER G WITH BREVE"),
   (287, "LATIN SMALL LETTER G WITH BREVE"), (288, "LATIN CAPITAL LETTER G WITH DOT ABOVE"),
   (289, "LATIN SMALL LETTER G WITH DOT ABOVE"), (290, "LATIN CAPITAL LETTER G WITH CEDILLA"),
   (291, "LATIN SMALL LETTER G WITH CEDILLA"), (292, "LATIN CAPITAL LETTER H WITH CIRCUMFLEX"),
   (293, "LATIN SMALL LETTER H WITH CIRCUMFLEX"), (294, "LATIN CAPITAL LETTER H WITH STROKE"),
   (295, "LATIN SMALL LETTER H WITH STROKE"), (296, "LATIN CAPITAL LETTER I WITH TILDE"),
   (297, "LATIN SMALL LETTER I WITH TILDE"), (298, "LATIN CAPITAL LETTER I WITH MACRON"),
   (299, "LATIN SMALL LETTER I WITH MACRON"), (300, "LATIN CAPITAL LETTER I WITH BREVE"),
   (301, "LATIN SMALL LETTER I WITH BREVE"), (302, "LATIN CAPITAL LETTER I WITH OGONEK"),
   (303, "LATIN SMALL LETTER I WITH OGONEK"), (304, "LATIN CAPITAL LETTER I WITH DOT ABOVE"),
   (305, "LATIN SMALL LETTER DOTLESS I"), (306, "LATIN CAPITAL LIGATURE IJ"),
   (307, "LATIN SMALL LIGATURE IJ"), (308, "LATIN CAPITAL LETTER J WITH CIRCUMFLEX"),
   (309, "LATIN SMALL LETTER J WITH CIRCUMFLEX"), (310, "LATIN CAPITAL LETTER K WITH CEDILLA"),
   (311, "LATIN SMALL LETTER K WITH CEDILLA"), (312, "LATIN SMALL LETTER KRA"),
   (313, "LATIN CAPITAL LETTER L WITH ACUTE"), (314, "LATIN SMALL LETTER L WITH ACUTE"),
   (315, "LATIN CAPITAL LETTER L WITH CEDILLA"), (316, "LATIN SMALL LETTER L WITH CEDILLA"),
   (317, "LATIN CAPITAL LETTER L WITH CARON"), (318, "LATIN SMALL LETTER L WITH CARON"),
   (319, "LATIN CAPITAL LETTER L WITH MIDDLE DOT"), (320, "LATIN SMALL LETTER L WITH MIDDLE DOT"),
   (321, "LATIN CAPITAL LETTER L WITH STROKE"), (322, "LATIN SMALL LETTER L WITH STROKE"),
   (323, "LATIN CAPITAL LETTER N WITH ACUTE"), (324, "LATIN SMALL LETTER N WITH ACUTE"),
   (325, "LATIN CAPITAL LETTER N WITH CEDILLA"), (326, "LATIN SMALL LETTER N WITH CEDILLA"),
   (327, "LATIN CAPITAL LETTER N WITH CARON"), (328, "LATIN SMALL LETTER N WITH CARON"),
   (329, "LATIN SMALL LETTER N PRECEDED BY APOSTROPHE"), (330, "LATIN CAPITAL LETTER ENG"),
   (331, "LATIN SMALL LETTER ENG"), (332, "LATIN CAPITAL LETTER O WITH MACRON"),
   (333, "LATIN SMALL LETTER O WITH MACRON"), (334, "LATIN CAPITAL LETTER O WITH BREVE"),
   (335, "LATIN SMALL LETTER O WITH BREVE"), (336, "LATIN CAPITAL LETTER O WITH DOUBLE ACUTE"),
   (337, "LATIN SMALL LETTER O WITH DOUBLE ACUTE"), (338, "LATIN CAPITAL LIGATURE OE"),
   (339, "LATIN SMALL LIGATURE OE"), (340, "LATIN CAPITAL LETTER R WITH ACUTE"),
   (341, "LATIN SMALL LETTER R WITH ACUTE"), (342, "LATIN CAPITAL LETTER R WITH CEDILLA"),
   (343, "LATIN SMALL LETTER R WITH CEDILLA"), (344, "LATIN CAPITAL LETTER R WITH CARON"),
   (345, "LATIN SMALL LETTER R WITH CARON"), (346, "LATIN CAPITAL LETTER S WITH ACUTE"),
   (347, "LATIN SMALL LETTER S WITH ACUTE"), (348, "LATIN CAPITAL LETTER S WITH CIRCUMFLEX"),
   (349, "LATIN SMALL LETTER S WITH CIRCUMFLEX"), (350, "LATIN CAPITAL LETTER S WITH CEDILLA"),
   (351, "LATIN SMALL LETTER S WITH CEDILLA"), (352, "LATIN CAPITAL LETTER S WITH CARON"),
   (353, "LATIN SMALL LETTER S WITH CARON"), (354, "LATIN CAPITAL LETTER T WITH CEDILLA"),
   (355, "LATIN SMALL LETTER T WITH CEDILLA"), (356, "LATIN CAPITAL LETTER T WITH CARON"),
   (357, "LATIN SMALL LETTER T WITH CARON"), (358, "LATIN CAPITAL LETTER T WITH STROKE"),
   (359, "LATIN SMALL LETTER T WITH STROKE"), (360, "LATIN CAPITAL LETTER U WITH TILDE"),
   (361, "LATIN SMALL LETTER U WITH TILDE"), (362, "LATIN CAPITAL LETTER U WITH MACRON"),
   (363, "LATIN SMALL LETTER U WITH MACRON"), (364, "LATIN CAPITAL LETTER U WITH BREVE"),
   (365, "LATIN SMALL LETTER U WITH BREVE"), (366, "LATIN CAPITAL LETTER U WITH RING ABOVE"),
   (367, "LATIN SMALL LETTER U WITH RING ABOVE"),
   (368, "LATIN CAPITAL LETTER U WITH DOUBLE ACUTE"),
   (369, "LATIN SMALL LETTER U WITH DOUBLE ACUTE"), (370, "LATIN CAPITAL LETTER U WITH OGONEK"),
   (371, "LATIN SMALL LETTER U WITH OGONEK"), (372, "LATIN CAPITAL LETTER W WITH CIRCUMFLEX"),
   (373, "LATIN SMALL LETTER W WITH CIRCUMFLEX"), (374, "LATIN CAPITAL LETTER Y WITH CIRCUMFLEX"),
   (375, "LATIN SMALL LETTER Y WITH CIRCUMFLEX"), (376, "LATIN CAPITAL LETTER Y WITH DIAERESIS"),
   (377, "LATIN CAPITAL LETTER Z WITH ACUTE"), (378, "LATIN SMALL LETTER Z WITH ACUTE"),
   (379, "LATIN CAPITAL LETTER Z WITH DOT ABOVE"), (380, "LATIN SMALL LETTER Z WITH DOT ABOVE"),
   (381, "LATIN CAPITAL LETTER Z WITH CARON"), (382, "LATIN SMALL LETTER Z WITH CARON"),
   (383, "LATIN SMALL LETTER LONG S"), (913, "GREEK CAPITAL LETTER ALPHA"),
   (914, "GREEK CAPITAL LETTER BETA"), (915, "GREEK CAPITAL LETTER GAMMA"),
   (916, "GREEK CAPITAL LETTER DELTA"), (917, "GREEK CAPITAL LETTER EPSILON"),
   (918, "GREEK CAPITAL LETTER ZETA"), (919, "GREEK CAPITAL LETTER ETA"),
   (920, "GREEK CAPITAL LETTER THETA"), (921, "GREEK CAPITAL LETTER IOTA"),
   (922, "GREEK CAPITAL LETTER KAPPA"), (923, "GREEK CAPITAL LETTER LAMDA"),
   (924, "GREEK CAPITAL LETTER MU"), (925, "GREEK CAPITAL LETTER NU"),
   (926, "GREEK CAPITAL LETTER XI"), (927, "GREEK CAPITAL LETTER OMICRON"),
   (928, "GREEK CAPITAL LETTER PI"), (929, "GREEK CAPITAL LETTER RHO"),
   (931, "GREEK CAPITAL LETTER SIGMA"), (932, "GREEK CAPITAL LETTER TAU"),
   (933, "GREEK CAPITAL LETTER UPSILON"), (934, "GREEK CAPITAL LETTER PHI"),
   (935, "GREEK CAPITAL LETTER CHI"), (936, "GREEK CAPITAL LETTER PSI"),
   (937, "GREEK CAPITAL LETTER OMEGA"), (938, "GREEK CAPITAL LETTER IOTA WITH DIALYTIKA"),
   (939, "GREEK CAPITAL LETTER UPSILON WITH DIALYTIKA"),
   (940, "GREEK SMALL LETTER ALPHA WITH TONOS"), (941, "GREEK SMALL LETTER EPSILON WITH TONOS"),
   (942, "GREEK SMALL LETTER ETA WITH TONOS"), (943, "GREEK SMALL LETTER IOTA WITH TONOS"),
   (944, "GREEK SMALL LETTER UPSILON WITH DIALYTIKA AND TONOS"), (945, "GREEK SMALL LETTER ALPHA"),
   (946, "GREEK SMALL LETTER BETA"), (947, "GREEK SMALL LETTER GAMMA"),
   (948, "GREEK SMALL LETTER DELTA"), (949, "GREEK SMALL LETTER EPSILON"),
   (950, "GREEK SMALL LETTER ZETA"), (951, "GREEK SMALL LETTER ETA"),
   (952, "GREEK SMALL LETTER THETA"), (953, "GREEK SMALL LETTER IOTA"),
   (954, "GREEK SMALL LETTER KAPPA"), (955, "GREEK SMALL LETTER LAMDA"),
   (956, "GREEK SMALL LETTER MU"), (957, "GREEK SMALL LETTER NU"), (958, "GREEK SMALL LETTER XI"),
   (959, "GREEK SMALL LETTER OMICRON"), (960, "GREEK SMALL LETTER PI"),
   (961, "GREEK SMALL LETTER RHO"), (962, "GREEK SMALL LETTER FINAL SIGMA"),
   (963, "GREEK SMALL LETTER SIGMA"), (964, "GREEK SMALL LETTER TAU"),
   (965, "GREEK SMALL LETTER UPSILON"), (966, "GREEK SMALL LETTER PHI"),
   (967, "GREEK SMALL LETTER CHI"), (968, "GREEK SMALL LETTER PSI"),
   (969, "GREEK SMALL LETTER OMEGA"), (1040, "CYRILLIC CAPITAL LETTER A"),
   (1041, "CYRILLIC CAPITAL LETTER BE"), (1042, "CYRILLIC CAPITAL LETTER VE"),
   (1043, "CYRILLIC CAPITAL LETTER GHE"), (1044, "CYRILLIC CAPITAL LETTER DE"),
   (1045, "CYRILLIC CAPITAL LETTER IE"), (1046, "CYRILLIC CAPITAL LETTER ZHE"),
   (1047, "CYRILLIC CAPITAL LETTER ZE"), (1048, "CYRILLIC CAPITAL LETTER I"),
   (1049, "CYRILLIC CAPITAL LETTER SHORT I"), (1050, "CYRILLIC CAPITAL LETTER KA"),
   (1051, "CYRILLIC CAPITAL LETTER EL"), (1052, "CYRILLIC CAPITAL LETTER EM"),
   (1053, "CYRILLIC CAPITAL LETTER EN"), (1054, "CYRILLIC CAPITAL LETTER O"),
   (1055, "CYRILLIC CAPITAL LETTER PE"), (1056, "CYRILLIC CAPITAL LETTER ER"),
   (1057, "CYRILLIC CAPITAL LETTER ES"), (1058, "CYRILLIC CAPITAL LETTER TE"),
   (1059, "CYRILLIC CAPITAL LETTER U"), (1060, "CYRILLIC CAPITAL LETTER EF"),
   (1061, "CYRILLIC CAPITAL LETTER HA"), (1062, "CYRILLIC CAPITAL LETTER TSE"),
   (1063, "CYRILLIC CAPITAL LETTER CHE"), (1064, "CYRILLIC CAPITAL LETTER SHA"),
   (1065, "CYRILLIC CAPITAL LETTER SHCHA"), (1066, "CYRILLIC CAPITAL LETTER HARD SIGN"),
   (1067, "CYRILLIC CAPITAL LETTER YERU"), (1068, "CYRILLIC CAPITAL LETTER SOFT SIGN"),
   (1069, "CYRILLIC CAPITAL LETTER E"), (1070, "CYRILLIC CAPITAL LETTER YU"),
   (1071, "CYRILLIC CAPITAL LETTER YA"), (1072, "CYRILLIC SMALL LETTER A"),
   (1073, "CYRILLIC SMALL LETTER BE"), (1074, "CYRILLIC SMALL LETTER VE"),
   (1075, "CYRILLIC SMALL LETTER GHE"), (1076, "CYRILLIC SMALL LETTER DE"),
   (1077, "CYRILLIC SMALL LETTER IE"), (1078, "CYRILLIC SMALL LETTER ZHE"),
   (1079, "CYRILLIC SMALL LETTER ZE"), (1080, "CYRILLIC SMALL LETTER I"),
   (1081, "CYRILLIC SMALL LETTER SHORT I"), (1082, "CYRILLIC SMALL LETTER KA"),
   (1083, "CYRILLIC SMALL LETTER EL"), (1084, "CYRILLIC SMALL LETTER EM"),
   (1085, "CYRILLIC SMALL LETTER EN"), (1086, "CYRILLIC SMALL LETTER O"),
   (1087, "CYRILLIC SMALL LETTER PE"), (1088, "CYRILLIC SMALL LETTER ER"),
   (1089, "CYRILLIC SMALL LETTER ES"), (1090, "CYRILLIC SMALL LETTER TE"),
   (1091, "CYRILLIC SMALL LETTER U"), (1092, "CYRILLIC SMALL LETTER EF"),
   (1093, "CYRILLIC SMALL LETTER HA"), (1094, "CYRILLIC SMALL LETTER TSE"),
   (1095, "CYRILLIC SMALL LETTER CHE"), (1096, "CYRILLIC SMALL LETTER SHA"),
   (1097, "CYRILLIC SMALL LETTER SHCHA"), (1098, "CYRILLIC SMALL LETTER HARD SIGN"),
   (1099, "CYRILLIC SMALL LETTER YERU"), (1100, "CYRILLIC SMALL LETTER SOFT SIGN"),
   (1101, "CYRILLIC SMALL LETTER E"), (1102, "CYRILLIC SMALL LETTER YU"),
   (1103, "CYRILLIC SMALL LETTER YA"), (1025, "CYRILLIC CAPITAL LETTER IO"),
   (1105, "CYRILLIC SMALL LETTER IO"), (8208, "HYPHEN"), (8209, "NON-BREAKING HYPHEN"),
   (8210, "FIGURE DASH"), (8211, "EN DASH"), (8212, "EM DASH"), (8213, "HORIZONTAL BAR"),
   (8214, "DOUBLE VERTICAL LINE"), (8215, "DOUBLE LOW LINE"), (8216, "LEFT SINGLE QUOTATION MARK"),
   (8217, "RIGHT SINGLE QUOTATION MARK"), (8218, "SINGLE LOW-9 QUOTATION MARK"),
   (8219, "SINGLE HIGH-REVERSED-9 QUOTATION MARK"), (8220, "LEFT DOUBLE QUOTATION MARK"),
   (8221, "RIGHT DOUBLE QUOTATION MARK"), (8222, "DOUBLE LOW-9 QUOTATION MARK"),
   (8223, "DOUBLE HIGH-REVERSED-9 QUOTATION MARK"), (8224, "DAGGER"), (8225, "DOUBLE DAGGER"),
   (8226, "BULLET"), (8227, "TRIANGULAR BULLET"), (8228, "ONE DOT LEADER"),
   (8229, "TWO DOT LEADER"), (8230, "HORIZONTAL ELLIPSIS"), (8231, "HYPHENATION POINT"),
   (8239, "NARROW NO-BREAK SPACE"), (8240, "PER MILLE SIGN"), (8241, "PER TEN THOUSAND SIGN"),
   (8242, "PRIME"), (8243, "DOUBLE PRIME"), (8244, "TRIPLE PRIME"), (8245, "REVERSED PRIME"),
   (8246, "REVERSED DOUBLE PRIME"), (8247, "REVERSED TRIPLE PRIME"), (8248, "CARET"),
   (8249, "SINGLE LEFT-POINTING ANGLE QUOTATION MARK"),
   (8250, "SINGLE RIGHT-POINTING ANGLE QUOTATION MARK"), (8251, "REFERENCE MARK"),
   (8252, "DOUBLE EXCLAMATION MARK"), (8253, "INTERROBANG"), (8254, "OVERLINE"),
   (8352, "EURO-CURRENCY SIGN"), (8353, "COLON SIGN"), (8354, "CRUZEIRO SIGN"),
   (8355, "FRENCH FRANC SIGN"), (8356, "LIRA SIGN"), (8357, "MILL SIGN"), (8358, "NAIRA SIGN"),
   (8359, "PESETA SIGN"), (8360, "RUPEE SIGN"), (8361, "WON SIGN"), (8362, "NEW SHEQEL SIGN"),
   (8363, "DONG SIGN"), (8364, "EURO SIGN"), (8365, "KIP SIGN"), (8366, "TUGRIK SIGN"),
   (8367, "DRACHMA SIGN"), (8368, "GERMAN PENNY SIGN"), (8369, "PESO SIGN"),
   (8370, "GUARANI SIGN"), (8371, "AUSTRAL SIGN"), (8372, "HRYVNIA SIGN"), (8373, "CEDI SIGN"),
   (8374, "LIVRE TOURNOIS SIGN"), (8375, "SPESMILO SIGN"), (8376, "TENGE SIGN"),
   (8377, "INDIAN RUPEE SIGN"), (8378, "TURKISH LIRA SIGN"), (8379, "NORDIC MARK SIGN"),
   (8380, "MANAT SIGN"), (8381, "RUBLE SIGN"), (8382, "LARI SIGN"), (8383, "BITCOIN SIGN"),
   (8448, "ACCOUNT OF"), (8449, "ADDRESSED TO THE SUBJECT"), (8450, "DOUBLE-STRUCK CAPITAL C"),
   (8451, "DEGREE CELSIUS"), (8452, "CENTRE LINE SYMBOL"), (8453, "CARE OF"), (8454, "CADA UNA"),
   (8455, "EULER CONSTANT"), (8456, "SCRUPLE"), (8457, "DEGREE FAHRENHEIT"),
   (8458, "SCRIPT SMALL G"), (8459, "SCRIPT CAPITAL H"), (8460, "BLACK-LETTER CAPITAL H"),
   (8461, "DOUBLE-STRUCK CAPITAL H"), (8462, "PLANCK CONSTANT"),
   (8463, "PLANCK CONSTANT OVER TWO PI"), (8464, "SCRIPT CAPITAL I"),
   (8465, "BLACK-LETTER CAPITAL I"), (8466, "SCRIPT CAPITAL L"), (8467, "SCRIPT SMALL L"),
   (8468, "L B BAR SYMBOL"), (8469, "DOUBLE-STRUCK CAPITAL N"), (8470, "NUMERO SIGN"),
   (8471, "SOUND RECORDING COPYRIGHT"), (8472, "SCRIPT CAPITAL P"),
   (8473, "DOUBLE-STRUCK CAPITAL P"), (8474, "DOUBLE-STRUCK CAPITAL Q"),
   (8475, "SCRIPT CAPITAL R"), (8476, "BLACK-LETTER CAPITAL R"), (8477, "DOUBLE-STRUCK CAPITAL R"),
   (8478, "PRESCRIPTION TAKE"), (8479, "RESPONSE"), (8480, "SERVICE MARK"),
   (8481, "TELEPHONE SIGN"), (8482, "TRADE MARK SIGN"), (8483, "VERSICLE"),
   (8484, "DOUBLE-STRUCK CAPITAL Z"), (8485, "OUNCE SIGN"), (8486, "OHM SIGN"),
   (8592, "LEFTWARDS ARROW"), (8593, "UPWARDS ARROW"), (8594, "RIGHTWARDS ARROW"),
   (8595, "DOWNWARDS ARROW"), (8596, "LEFT RIGHT ARROW"), (8597, "UP DOWN ARROW"),
   (8598, "NORTH WEST ARROW"), (8599, "NORTH EAST ARROW"), (8600, "SOUTH EAST ARROW"),
   (8601, "SOUTH WEST ARROW"), (8704, "FOR ALL"), (8705, "COMPLEMENT"),
   (8706, "PARTIAL DIFFERENTIAL"), (8707, "THERE EXISTS"), (8708, "THERE DOES NOT EXIST"),
   (8709, "EMPTY SET"), (8710, "INCREMENT"), (8711, "NABLA"), (8712, "ELEMENT OF"),
   (8713, "NOT AN ELEMENT OF"), (8714, "SMALL ELEMENT OF"), (8715, "CONTAINS AS MEMBER"),
   (8716, "DOES NOT CONTAIN AS MEMBER"), (8717, "SMALL CONTAINS AS MEMBER"),
   (8718, "END OF PROOF"), (8719, "N-ARY PRODUCT"), (8720, "N-ARY COPRODUCT"),
   (8721, "N-ARY SUMMATION"), (8722, "MINUS SIGN"), (8723, "MINUS-OR-PLUS SIGN"),
   (8724, "DOT PLUS"), (8725, "DIVISION SLASH"), (8726, "SET MINUS"), (8727, "ASTERISK OPERATOR"),
   (8728, "RING OPERATOR"), (8729, "BULLET OPERATOR"), (8730, "SQUARE ROOT"), (8731, "CUBE ROOT"),
   (8732, "FOURTH ROOT"), (8733, "PROPORTIONAL TO"), (8734, "INFINITY"), (8735, "RIGHT ANGLE"),
   (8736, "ANGLE"), (8737, "MEASURED ANGLE"), (8738, "SPHERICAL ANGLE"), (8739, "DIVIDES"),
   (8740, "DOES NOT DIVIDE"), (8741, "PARALLEL TO"), (8742, "NOT PARALLEL TO"),
   (8743, "LOGICAL AND"), (8744, "LOGICAL OR"), (8745, "INTERSECTION"), (8746, "UNION"),
   (8747, "INTEGRAL"), (8748, "DOUBLE INTEGRAL"), (8749, "TRIPLE INTEGRAL"),
   (8750, "CONTOUR INTEGRAL"), (8751, "SURFACE INTEGRAL"), (8752, "VOLUME INTEGRAL"),
   (8753, "CLOCKWISE INTEGRAL"), (8754, "CLOCKWISE CONTOUR INTEGRAL"),
   (8755, "ANTICLOCKWISE CONTOUR INTEGRAL"), (8756, "THEREFORE"), (8757, "BECAUSE"),
   (8758, "RATIO"), (8759, "PROPORTION"), (8760, "DOT MINUS"), (8761, "EXCESS"),
   (8762, "GEOMETRIC PROPORTION"), (8763, "HOMOTHETIC"), (8764, "TILDE OPERATOR"),
   (8765, "REVERSED TILDE"), (8766, "INVERTED LAZY S"), (8767, "SINE WAVE"),
   (8768, "WREATH PRODUCT"), (8769, "NOT TILDE"), (8770, "MINUS TILDE"),
   (8771, "ASYMPTOTICALLY EQUAL TO"), (8772, "NOT ASYMPTOTICALLY EQUAL TO"),
   (8773, "APPROXIMATELY EQUAL TO"), (8774, "APPROXIMATELY BUT NOT ACTUALLY EQUAL TO"),
   (8775, "NEITHER APPROXIMATELY NOR ACTUALLY EQUAL TO"), (8776, "ALMOST EQUAL TO"),
   (8777, "NOT ALMOST EQUAL TO"), (8778, "ALMOST EQUAL OR EQUAL TO"), (8779, "TRIPLE TILDE"),
   (8780, "ALL EQUAL TO"), (8781, "EQUIVALENT TO"), (8782, "GEOMETRICALLY EQUIVALENT TO"),
   (8783, "DIFFERENCE BETWEEN"), (8784, "APPROACHES THE LIMIT"), (8785, "GEOMETRICALLY EQUAL TO"),
   (8786, "APPROXIMATELY EQUAL TO OR THE IMAGE OF"), (8787, "IMAGE OF OR APPROXIMATELY EQUAL TO"),
   (8788, "COLON EQUALS"), (8789, "EQUALS COLON"), (8790, "RING IN EQUAL TO"),
   (8791, "RING EQUAL TO"), (8792, "CORRESPONDS TO"), (8793, "ESTIMATES"),
   (8794, "EQUIANGULAR TO"), (8795, "STAR EQUALS"), (8796, "DELTA EQUAL TO"),
   (8797, "EQUAL TO BY DEFINITION"), (8798, "MEASURED BY"), (8799, "QUESTIONED EQUAL TO"),
   (8800, "NOT EQUAL TO"), (8801, "IDENTICAL TO"), (8802, "NOT IDENTICAL TO"),
   (8803, "STRICTLY EQUIVALENT TO"), (8804, "LESS-THAN OR EQUAL TO"), (9632, "BLACK SQUARE"),
   (9633, "WHITE SQUARE"), (9634, "WHITE SQUARE WITH ROUNDED CORNERS"),
   (9635, "WHITE SQUARE CONTAINING BLACK SMALL SQUARE"), (9636, "SQUARE WITH HORIZONTAL FILL"),
   (9637, "SQUARE WITH VERTICAL FILL"), (9638, "SQUARE WITH ORTHOGONAL CROSSHATCH FILL"),
   (9639, "SQUARE WITH UPPER LEFT TO LOWER RIGHT FILL"),
   (9640, "SQUARE WITH UPPER RIGHT TO LOWER LEFT FILL"),
   (9641, "SQUARE WITH DIAGONAL CROSSHATCH FILL"), (9642, "BLACK SMALL SQUARE"),
   (9643, "WHITE SMALL SQUARE"), (9644, "BLACK RECTANGLE"), (9645, "WHITE RECTANGLE"),
   (9646, "BLACK VERTICAL RECTANGLE"), (9647, "WHITE VERTICAL RECTANGLE"),
   (9648, "BLACK PARALLELOGRAM"), (9649, "WHITE PARALLELOGRAM"),
   (9650, "BLACK UP-POINTING TRIANGLE"), (9651, "WHITE UP-POINTING TRIANGLE"),
   (9652, "BLACK UP-POINTING SMALL TRIANGLE"), (9653, "WHITE UP-POINTING SMALL TRIANGLE"),
   (9654, "BLACK RIGHT-POINTING TRIANGLE"), (9655, "WHITE RIGHT-POINTING TRIANGLE"),
   (9656, "BLACK RIGHT-POINTING SMALL TRIANGLE"), (9657, "WHITE RIGHT-POINTING SMALL TRIANGLE"),
   (9658, "BLACK RIGHT-POINTING POINTER"), (9659, "WHITE RIGHT-POINTING POINTER"),
   (9660, "BLACK DOWN-POINTING TRIANGLE"), (9661, "WHITE DOWN-POINTING TRIANGLE"),
   (9662, "BLACK DOWN-POINTING SMALL TRIANGLE"), (9663, "WHITE DOWN-POINTING SMALL TRIANGLE"),
   (9664, "BLACK LEFT-POINTING TRIANGLE"), (9665, "WHITE LEFT-POINTING TRIANGLE"),
   (9666, "BLACK LEFT-POINTING SMALL TRIANGLE"), (9667, "WHITE LEFT-POINTING SMALL TRIANGLE"),
   (9668, "BLACK LEFT-POINTING POINTER"), (9669, "WHITE LEFT-POINTING POINTER"),
   (9670, "BLACK DIAMOND"), (9671, "WHITE DIAMOND"),
   (9672, "WHITE DIAMOND CONTAINING BLACK SMALL DIAMOND"), (9673, "FISHEYE"), (9674, "LOZENGE"),
   (9675, "WHITE CIRCLE"), (9676, "DOTTED CIRCLE"), (9677, "CIRCLE WITH VERTICAL FILL"),
   (9678, "BULLSEYE"), (9679, "BLACK CIRCLE"), (9728, "BLACK SUN WITH RAYS"), (9729, "CLOUD"),
   (9730, "UMBRELLA"), (9731, "SNOWMAN"), (9744, "BALLOT BOX"), (9745, "BALLOT BOX WITH CHECK"),
   (9746, "BALLOT BOX WITH X"), (9747, "SALTIRE"), (9824, "BLACK SPADE SUIT"),
   (9825, "WHITE HEART SUIT"), (9826, "WHITE DIAMOND SUIT"), (9827, "BLACK CLUB SUIT"),
   (9828, "WHITE SPADE SUIT"), (9829, "BLACK HEART SUIT"), (9830, "BLACK DIAMOND SUIT"),
   (9831, "WHITE CLUB SUIT"), (9832, "HOT SPRINGS"), (9833, "QUARTER NOTE"), (9834, "EIGHTH NOTE"),
   (9835, "BEAMED EIGHTH NOTES"), (9836, "BEAMED SIXTEENTH NOTES"), (9837, "MUSIC FLAT SIGN"),
   (9838, "MUSIC NATURAL SIGN"), (9839, "MUSIC SHARP SIGN"), (12288, "IDEOGRAPHIC SPACE"),
   (12289, "IDEOGRAPHIC COMMA"), (12290, "IDEOGRAPHIC FULL STOP"),
   (65279, "ZERO WIDTH NO-BREAK SPACE"), (65533, "REPLACEMENT CHARACTER"),
   (128512, "GRINNING FACE"), (128513, "GRINNING FACE WITH SMILING EYES"),
   (128514, "FACE WITH TEARS OF JOY"), (128515, "SMILING FACE WITH OPEN MOUTH"),
   (128516, "SMILING FACE WITH OPEN MOUTH AND SMILING EYES"),
   (128517, "SMILING FACE WITH OPEN MOUTH AND COLD SWEAT"),
   (128518, "SMILING FACE WITH OPEN MOUTH AND TIGHTLY-CLOSED EYES"),
   (128519, "SMILING FACE WITH HALO"), (128520, "SMILING FACE WITH HORNS"),
   (128521, "WINKING FACE"), (128522, "SMILING FACE WITH SMILING EYES"),
   (128523, "FACE SAVOURING DELICIOUS FOOD"), (128524, "RELIEVED FACE"),
   (128525, "SMILING FACE WITH HEART-SHAPED EYES"), (128526, "SMILING FACE WITH SUNGLASSES"),
   (128527, "SMIRKING FACE"), (128528, "NEUTRAL FACE"), (128529, "EXPRESSIONLESS FACE"),
   (128530, "UNAMUSED FACE"), (128531, "FACE WITH COLD SWEAT"), (128532, "PENSIVE FACE"),
   (128533, "CONFUSED FACE"), (128534, "CONFOUNDED FACE"), (128535, "KISSING FACE"),
   (128536, "FACE THROWING A KISS"), (128537, "KISSING FACE WITH SMILING EYES"),
   (128538, "KISSING FACE WITH CLOSED EYES"), (128539, "FACE WITH STUCK-OUT TONGUE"),
   (128540, "FACE WITH STUCK-OUT TONGUE AND WINKING EYE"),
   (128541, "FACE WITH STUCK-OUT TONGUE AND TIGHTLY-CLOSED EYES"), (128542, "DISAPPOINTED FACE"),
   (128543, "WORRIED FACE"), (128544, "ANGRY FACE"), (128545, "POUTING FACE"),
   (128546, "CRYING FACE"), (128547, "PERSEVERING FACE"), (128548, "FACE WITH LOOK OF TRIUMPH"),
   (128549, "DISAPPOINTED BUT RELIEVED FACE"), (128550, "FROWNING FACE WITH OPEN MOUTH"),
   (128551, "ANGUISHED FACE"), (128552, "FEARFUL FACE"), (128553, "WEARY FACE"),
   (128554, "SLEEPY FACE"), (128555, "TIRED FACE"), (128556, "GRIMACING FACE"),
   (128557, "LOUDLY CRYING FACE"), (128558, "FACE WITH OPEN MOUTH"), (128559, "HUSHED FACE"),
   (128560, "FACE WITH OPEN MOUTH AND COLD SWEAT"), (128561, "FACE SCREAMING IN FEAR"),
   (128562, "ASTONISHED FACE"), (128563, "FLUSHED FACE"), (128564, "SLEEPING FACE"),
   (128565, "DIZZY FACE"), (128566, "FACE WITHOUT MOUTH"), (128567, "FACE WITH MEDICAL MASK"),
   (128568, "GRINNING CAT FACE WITH SMILING EYES"), (128569, "CAT FACE WITH TEARS OF JOY"),
   (128570, "SMILING CAT FACE WITH OPEN MOUTH"),
   (128571, "SMILING CAT FACE WITH HEART-SHAPED EYES"), (128572, "CAT FACE WITH WRY SMILE"),
   (128573, "KISSING CAT FACE WITH CLOSED EYES"), (128574, "POUTING CAT FACE"),
   (128575, "CRYING CAT FACE"), (128576, "WEARY CAT FACE"), (128577, "SLIGHTLY FROWNING FACE"),
   (128578, "SLIGHTLY SMILING FACE"), (128579, "UPSIDE-DOWN FACE"),
   (128580, "FACE WITH ROLLING EYES"), (128581, "FACE WITH NO GOOD GESTURE"),
   (128582, "FACE WITH OK GESTURE"), (128583, "PERSON BOWING DEEPLY"),
   (128584, "SEE-NO-EVIL MONKEY"), (128585, "HEAR-NO-EVIL MONKEY"),
   (128586, "SPEAK-NO-EVIL MONKEY"), (128587, "HAPPY PERSON RAISING ONE HAND"),
   (128588, "PERSON RAISING BOTH HANDS IN CELEBRATION"), (128589, "PERSON FROWNING"),
   (128590, "PERSON WITH POUTING FACE"), (128591, "PERSON WITH FOLDED HANDS")]

/-- The mark that precedes the code point in the name of an ideograph. -/
def ideographMark : List Char := "CJK UNIFIED IDEOGRAPH-".toList

def ideographNamed? (name : List Char) : Option Char :=
  let digits := name.drop ideographMark.length
  if ideographMark.isPrefixOf name && digits.length = 4 && digits.all isHexDigit then
    let n := hexNumber digits
    if 0x4E00 ≤ n && n ≤ 0x9FFC then some (Char.ofNat n) else none
  else none

def asciiCapitals (cs : List Char) : List Char :=
  cs.map fun c => if 'a' ≤ c && c ≤ 'z' then Char.ofNat (c.toNat - 32) else c

/-- The character of a name, if it is one of `charNames` or an ideograph. Most characters of other
scripts are missing from that table, and their names count as unknown. -/
def charNamed? (name : List Char) : Option Char :=
  let name := asciiCapitals name
  match charNames.find? fun entry => entry.2.toList = name with
  | some (n, _) => some (Char.ofNat n)
  | none => ideographNamed? name

end Detour.Text
