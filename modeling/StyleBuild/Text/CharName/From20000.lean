/-!
# Names of characters: U+20000 to U+E01EF

The rows are read as `StyleBuild.CharName` says.
-/

namespace StyleBuild.CharName

/-- The names of the characters from U+20000 to U+E01EF. -/
def from20000 : List String :=
  [
    "E0001:LANGUAGE TAG,E0020:TAG SPACE,1EXCLAMATION MARK,1QUOTATION MARK,1NUMBER SIGN",
    "1DOLLAR SIGN,1PERCENT SIGN,1AMPERSAND,1APOSTROPHE,1LEFT PARENTHESIS,1RIGHT PARENTHESIS",
    "1ASTERISK,1PLUS SIGN,1COMMA,1HYPHEN-MINUS,1FULL STOP,1SOLIDUS,1DIGIT ZERO,2ONE,2TWO,2THREE",
    "2FOUR,2FIVE,2SIX,2SEVEN,2EIGHT,2NINE,1COLON,1SEMICOLON,1LESS-THAN SIGN,1EQUALS SIGN",
    "1GREATER-THAN SIGN,1QUESTION MARK,1COMMERCIAL AT,1LATIN CAPITAL LETTER A,4B,4C,4D,4E,4F,4G",
    "4H,4I,4J,4K,4L,4M,4N,4O,4P,4Q,4R,4S,4T,4U,4V,4W,4X,4Y,4Z,1LEFT SQUARE BRACKET",
    "1REVERSE SOLIDUS,1RIGHT SQUARE BRACKET,1CIRCUMFLEX ACCENT,1LOW LINE,1GRAVE ACCENT",
    "1LATIN SMALL LETTER A,4B,4C,4D,4E,4F,4G,4H,4I,4J,4K,4L,4M,4N,4O,4P,4Q,4R,4S,4T,4U,4V,4W,4X",
    "4Y,4Z,1LEFT CURLY BRACKET,1VERTICAL LINE,1RIGHT CURLY BRACKET,1TILDE,CANCEL TAG",
    "E0100:VARIATION SELECTOR-17,E0100:VS17,VARIATION SELECTOR-18,E0101:VS18",
    "VARIATION SELECTOR-19,E0102:VS19,VARIATION SELECTOR-20,E0103:VS20,VARIATION SELECTOR-21",
    "E0104:VS21,VARIATION SELECTOR-22,E0105:VS22,VARIATION SELECTOR-23,E0106:VS23",
    "VARIATION SELECTOR-24,E0107:VS24,VARIATION SELECTOR-25,E0108:VS25,VARIATION SELECTOR-26",
    "E0109:VS26,VARIATION SELECTOR-27,E010A:VS27,VARIATION SELECTOR-28,E010B:VS28",
    "VARIATION SELECTOR-29,E010C:VS29,VARIATION SELECTOR-30,E010D:VS30,VARIATION SELECTOR-31",
    "E010E:VS31,VARIATION SELECTOR-32,E010F:VS32,VARIATION SELECTOR-33,E0110:VS33",
    "VARIATION SELECTOR-34,E0111:VS34,VARIATION SELECTOR-35,E0112:VS35,VARIATION SELECTOR-36",
    "E0113:VS36,VARIATION SELECTOR-37,E0114:VS37,VARIATION SELECTOR-38,E0115:VS38",
    "VARIATION SELECTOR-39,E0116:VS39,VARIATION SELECTOR-40,E0117:VS40,VARIATION SELECTOR-41",
    "E0118:VS41,VARIATION SELECTOR-42,E0119:VS42,VARIATION SELECTOR-43,E011A:VS43",
    "VARIATION SELECTOR-44,E011B:VS44,VARIATION SELECTOR-45,E011C:VS45,VARIATION SELECTOR-46",
    "E011D:VS46,VARIATION SELECTOR-47,E011E:VS47,VARIATION SELECTOR-48,E011F:VS48",
    "VARIATION SELECTOR-49,E0120:VS49,VARIATION SELECTOR-50,E0121:VS50,VARIATION SELECTOR-51",
    "E0122:VS51,VARIATION SELECTOR-52,E0123:VS52,VARIATION SELECTOR-53,E0124:VS53",
    "VARIATION SELECTOR-54,E0125:VS54,VARIATION SELECTOR-55,E0126:VS55,VARIATION SELECTOR-56",
    "E0127:VS56,VARIATION SELECTOR-57,E0128:VS57,VARIATION SELECTOR-58,E0129:VS58",
    "VARIATION SELECTOR-59,E012A:VS59,VARIATION SELECTOR-60,E012B:VS60,VARIATION SELECTOR-61",
    "E012C:VS61,VARIATION SELECTOR-62,E012D:VS62,VARIATION SELECTOR-63,E012E:VS63",
    "VARIATION SELECTOR-64,E012F:VS64,VARIATION SELECTOR-65,E0130:VS65,VARIATION SELECTOR-66",
    "E0131:VS66,VARIATION SELECTOR-67,E0132:VS67,VARIATION SELECTOR-68,E0133:VS68",
    "VARIATION SELECTOR-69,E0134:VS69,VARIATION SELECTOR-70,E0135:VS70,VARIATION SELECTOR-71",
    "E0136:VS71,VARIATION SELECTOR-72,E0137:VS72,VARIATION SELECTOR-73,E0138:VS73",
    "VARIATION SELECTOR-74,E0139:VS74,VARIATION SELECTOR-75,E013A:VS75,VARIATION SELECTOR-76",
    "E013B:VS76,VARIATION SELECTOR-77,E013C:VS77,VARIATION SELECTOR-78,E013D:VS78",
    "VARIATION SELECTOR-79,E013E:VS79,VARIATION SELECTOR-80,E013F:VS80,VARIATION SELECTOR-81",
    "E0140:VS81,VARIATION SELECTOR-82,E0141:VS82,VARIATION SELECTOR-83,E0142:VS83",
    "VARIATION SELECTOR-84,E0143:VS84,VARIATION SELECTOR-85,E0144:VS85,VARIATION SELECTOR-86",
    "E0145:VS86,VARIATION SELECTOR-87,E0146:VS87,VARIATION SELECTOR-88,E0147:VS88",
    "VARIATION SELECTOR-89,E0148:VS89,VARIATION SELECTOR-90,E0149:VS90,VARIATION SELECTOR-91",
    "E014A:VS91,VARIATION SELECTOR-92,E014B:VS92,VARIATION SELECTOR-93,E014C:VS93",
    "VARIATION SELECTOR-94,E014D:VS94,VARIATION SELECTOR-95,E014E:VS95,VARIATION SELECTOR-96",
    "E014F:VS96,VARIATION SELECTOR-97,E0150:VS97,VARIATION SELECTOR-98,E0151:VS98",
    "VARIATION SELECTOR-99,E0152:VS99,VARIATION SELECTOR-100,E0153:VS100,VARIATION SELECTOR-101",
    "E0154:VS101,VARIATION SELECTOR-102,E0155:VS102,VARIATION SELECTOR-103,E0156:VS103",
    "VARIATION SELECTOR-104,E0157:VS104,VARIATION SELECTOR-105,E0158:VS105,VARIATION SELECTOR-106",
    "E0159:VS106,VARIATION SELECTOR-107,E015A:VS107,VARIATION SELECTOR-108,E015B:VS108",
    "VARIATION SELECTOR-109,E015C:VS109,VARIATION SELECTOR-110,E015D:VS110,VARIATION SELECTOR-111",
    "E015E:VS111,VARIATION SELECTOR-112,E015F:VS112,VARIATION SELECTOR-113,E0160:VS113",
    "VARIATION SELECTOR-114,E0161:VS114,VARIATION SELECTOR-115,E0162:VS115,VARIATION SELECTOR-116",
    "E0163:VS116,VARIATION SELECTOR-117,E0164:VS117,VARIATION SELECTOR-118,E0165:VS118",
    "VARIATION SELECTOR-119,E0166:VS119,VARIATION SELECTOR-120,E0167:VS120,VARIATION SELECTOR-121",
    "E0168:VS121,VARIATION SELECTOR-122,E0169:VS122,VARIATION SELECTOR-123,E016A:VS123",
    "VARIATION SELECTOR-124,E016B:VS124,VARIATION SELECTOR-125,E016C:VS125,VARIATION SELECTOR-126",
    "E016D:VS126,VARIATION SELECTOR-127,E016E:VS127,VARIATION SELECTOR-128,E016F:VS128",
    "VARIATION SELECTOR-129,E0170:VS129,VARIATION SELECTOR-130,E0171:VS130,VARIATION SELECTOR-131",
    "E0172:VS131,VARIATION SELECTOR-132,E0173:VS132,VARIATION SELECTOR-133,E0174:VS133",
    "VARIATION SELECTOR-134,E0175:VS134,VARIATION SELECTOR-135,E0176:VS135,VARIATION SELECTOR-136",
    "E0177:VS136,VARIATION SELECTOR-137,E0178:VS137,VARIATION SELECTOR-138,E0179:VS138",
    "VARIATION SELECTOR-139,E017A:VS139,VARIATION SELECTOR-140,E017B:VS140,VARIATION SELECTOR-141",
    "E017C:VS141,VARIATION SELECTOR-142,E017D:VS142,VARIATION SELECTOR-143,E017E:VS143",
    "VARIATION SELECTOR-144,E017F:VS144,VARIATION SELECTOR-145,E0180:VS145,VARIATION SELECTOR-146",
    "E0181:VS146,VARIATION SELECTOR-147,E0182:VS147,VARIATION SELECTOR-148,E0183:VS148",
    "VARIATION SELECTOR-149,E0184:VS149,VARIATION SELECTOR-150,E0185:VS150,VARIATION SELECTOR-151",
    "E0186:VS151,VARIATION SELECTOR-152,E0187:VS152,VARIATION SELECTOR-153,E0188:VS153",
    "VARIATION SELECTOR-154,E0189:VS154,VARIATION SELECTOR-155,E018A:VS155,VARIATION SELECTOR-156",
    "E018B:VS156,VARIATION SELECTOR-157,E018C:VS157,VARIATION SELECTOR-158,E018D:VS158",
    "VARIATION SELECTOR-159,E018E:VS159,VARIATION SELECTOR-160,E018F:VS160,VARIATION SELECTOR-161",
    "E0190:VS161,VARIATION SELECTOR-162,E0191:VS162,VARIATION SELECTOR-163,E0192:VS163",
    "VARIATION SELECTOR-164,E0193:VS164,VARIATION SELECTOR-165,E0194:VS165,VARIATION SELECTOR-166",
    "E0195:VS166,VARIATION SELECTOR-167,E0196:VS167,VARIATION SELECTOR-168,E0197:VS168",
    "VARIATION SELECTOR-169,E0198:VS169,VARIATION SELECTOR-170,E0199:VS170,VARIATION SELECTOR-171",
    "E019A:VS171,VARIATION SELECTOR-172,E019B:VS172,VARIATION SELECTOR-173,E019C:VS173",
    "VARIATION SELECTOR-174,E019D:VS174,VARIATION SELECTOR-175,E019E:VS175,VARIATION SELECTOR-176",
    "E019F:VS176,VARIATION SELECTOR-177,E01A0:VS177,VARIATION SELECTOR-178,E01A1:VS178",
    "VARIATION SELECTOR-179,E01A2:VS179,VARIATION SELECTOR-180,E01A3:VS180,VARIATION SELECTOR-181",
    "E01A4:VS181,VARIATION SELECTOR-182,E01A5:VS182,VARIATION SELECTOR-183,E01A6:VS183",
    "VARIATION SELECTOR-184,E01A7:VS184,VARIATION SELECTOR-185,E01A8:VS185,VARIATION SELECTOR-186",
    "E01A9:VS186,VARIATION SELECTOR-187,E01AA:VS187,VARIATION SELECTOR-188,E01AB:VS188",
    "VARIATION SELECTOR-189,E01AC:VS189,VARIATION SELECTOR-190,E01AD:VS190,VARIATION SELECTOR-191",
    "E01AE:VS191,VARIATION SELECTOR-192,E01AF:VS192,VARIATION SELECTOR-193,E01B0:VS193",
    "VARIATION SELECTOR-194,E01B1:VS194,VARIATION SELECTOR-195,E01B2:VS195,VARIATION SELECTOR-196",
    "E01B3:VS196,VARIATION SELECTOR-197,E01B4:VS197,VARIATION SELECTOR-198,E01B5:VS198",
    "VARIATION SELECTOR-199,E01B6:VS199,VARIATION SELECTOR-200,E01B7:VS200,VARIATION SELECTOR-201",
    "E01B8:VS201,VARIATION SELECTOR-202,E01B9:VS202,VARIATION SELECTOR-203,E01BA:VS203",
    "VARIATION SELECTOR-204,E01BB:VS204,VARIATION SELECTOR-205,E01BC:VS205,VARIATION SELECTOR-206",
    "E01BD:VS206,VARIATION SELECTOR-207,E01BE:VS207,VARIATION SELECTOR-208,E01BF:VS208",
    "VARIATION SELECTOR-209,E01C0:VS209,VARIATION SELECTOR-210,E01C1:VS210,VARIATION SELECTOR-211",
    "E01C2:VS211,VARIATION SELECTOR-212,E01C3:VS212,VARIATION SELECTOR-213,E01C4:VS213",
    "VARIATION SELECTOR-214,E01C5:VS214,VARIATION SELECTOR-215,E01C6:VS215,VARIATION SELECTOR-216",
    "E01C7:VS216,VARIATION SELECTOR-217,E01C8:VS217,VARIATION SELECTOR-218,E01C9:VS218",
    "VARIATION SELECTOR-219,E01CA:VS219,VARIATION SELECTOR-220,E01CB:VS220,VARIATION SELECTOR-221",
    "E01CC:VS221,VARIATION SELECTOR-222,E01CD:VS222,VARIATION SELECTOR-223,E01CE:VS223",
    "VARIATION SELECTOR-224,E01CF:VS224,VARIATION SELECTOR-225,E01D0:VS225,VARIATION SELECTOR-226",
    "E01D1:VS226,VARIATION SELECTOR-227,E01D2:VS227,VARIATION SELECTOR-228,E01D3:VS228",
    "VARIATION SELECTOR-229,E01D4:VS229,VARIATION SELECTOR-230,E01D5:VS230,VARIATION SELECTOR-231",
    "E01D6:VS231,VARIATION SELECTOR-232,E01D7:VS232,VARIATION SELECTOR-233,E01D8:VS233",
    "VARIATION SELECTOR-234,E01D9:VS234,VARIATION SELECTOR-235,E01DA:VS235,VARIATION SELECTOR-236",
    "E01DB:VS236,VARIATION SELECTOR-237,E01DC:VS237,VARIATION SELECTOR-238,E01DD:VS238",
    "VARIATION SELECTOR-239,E01DE:VS239,VARIATION SELECTOR-240,E01DF:VS240,VARIATION SELECTOR-241",
    "E01E0:VS241,VARIATION SELECTOR-242,E01E1:VS242,VARIATION SELECTOR-243,E01E2:VS243",
    "VARIATION SELECTOR-244,E01E3:VS244,VARIATION SELECTOR-245,E01E4:VS245,VARIATION SELECTOR-246",
    "E01E5:VS246,VARIATION SELECTOR-247,E01E6:VS247,VARIATION SELECTOR-248,E01E7:VS248",
    "VARIATION SELECTOR-249,E01E8:VS249,VARIATION SELECTOR-250,E01E9:VS250,VARIATION SELECTOR-251",
    "E01EA:VS251,VARIATION SELECTOR-252,E01EB:VS252,VARIATION SELECTOR-253,E01EC:VS253",
    "VARIATION SELECTOR-254,E01ED:VS254,VARIATION SELECTOR-255,E01EE:VS255,VARIATION SELECTOR-256",
    "E01EF:VS256"
  ]

end StyleBuild.CharName
