/-
Simple case mapping of Unicode 17.0: every character has one upper case and one lower case
character, so a text keeps its number of characters.
-/
import Trellis.Text.Ranges

namespace Trellis.Text

/-- Characters with an upper case form other than themselves. -/
def upperRuns : List CaseRun := caseRuns
  "97-122:-32 181:743 224-246:-32 248-254:-32 255:121 257-303/2:-1 305:-232 307-311/2:-1
   314-328/2:-1 331-375/2:-1 378-382/2:-1 383:-300 384:195 387-389/2:-1 392:-1 396:-1 402:-1 405:97
   409:-1 410:163 411:42561 414:130 417-421/2:-1 424:-1 429:-1 432:-1 436-438/2:-1 441:-1 445:-1
   447:56 453:-1 454:-2 456:-1 457:-2 459:-1 460:-2 462-476/2:-1 477:-79 479-495/2:-1 498:-1 499:-2
   501:-1 505-543/2:-1 547-563/2:-1 572:-1 575-576:10815 578:-1 583-591/2:-1 592:10783 593:10780
   594:10782 595:-210 596:-206 598-599:-205 601:-202 603:-203 604:42319 608:-205 609:42315 611:-207
   612:42343 613:42280 614:42308 616:-209 617:-211 618:42308 619:10743 620:42305 623:-211 625:10749
   626:-213 629:-214 637:10727 640:-218 642:42307 643:-218 647:42282 648:-218 649:-69 650-651:-217
   652:-71 658:-219 669:42261 670:42258 837:84 881-883/2:-1 887:-1 891-893:130 940:-38 941-943:-37
   945-961:-32 962:-31 963-971:-32 972:-64 973-974:-63 976:-62 977:-57 981:-47 982:-54 983:-8
   985-1007/2:-1 1008:-86 1009:-80 1010:7 1011:-116 1013:-96 1016:-1 1019:-1 1072-1103:-32
   1104-1119:-80 1121-1153/2:-1 1163-1215/2:-1 1218-1230/2:-1 1231:-15 1233-1327/2:-1 1377-1414:-48
   4304-4346:3008 4349-4351:3008 5112-5117:-8 7296:-6254 7297:-6253 7298:-6244 7299-7300:-6242
   7301:-6243 7302:-6236 7303:-6181 7304:35266 7306:-1 7545:35332 7549:3814 7566:35384
   7681-7829/2:-1 7835:-59 7841-7935/2:-1 7936-7943:8 7952-7957:8 7968-7975:8 7984-7991:8
   8000-8005:8 8017-8023/2:8 8032-8039:8 8048-8049:74 8050-8053:86 8054-8055:100 8056-8057:128
   8058-8059:112 8060-8061:126 8064-8071:8 8080-8087:8 8096-8103:8 8112-8113:8 8115:9 8126:-7205
   8131:9 8144-8145:8 8160-8161:8 8165:7 8179:9 8526:-28 8560-8575:-16 8580:-1 9424-9449:-26
   11312-11359:-48 11361:-1 11365:-10795 11366:-10792 11368-11372/2:-1 11379:-1 11382:-1
   11393-11491/2:-1 11500-11502/2:-1 11507:-1 11520-11557:-7264 11559:-7264 11565:-7264
   42561-42605/2:-1 42625-42651/2:-1 42787-42799/2:-1 42803-42863/2:-1 42874-42876/2:-1
   42879-42887/2:-1 42892:-1 42897-42899/2:-1 42900:48 42903-42921/2:-1 42933-42947/2:-1
   42952-42954/2:-1 42957-42971/2:-1 42998:-1 43859:-928 43888-43967:-38864 65345-65370:-32
   66600-66639:-40 66776-66811:-40 66967-66977:-39 66979-66993:-39 66995-67001:-39 67003-67004:-39
   68800-68850:-64 68976-68997:-32 71872-71903:-32 93792-93823:-32 93883-93907:-27
   125218-125251:-34"

/-- Characters with a lower case form other than themselves. -/
def lowerRuns : List CaseRun := [
  ⟨65, 90, 1, 32⟩, ⟨192, 214, 1, 32⟩, ⟨216, 222, 1, 32⟩, ⟨256, 302, 2, 1⟩, ⟨304, 304, 1, -199⟩,
  ⟨306, 310, 2, 1⟩, ⟨313, 327, 2, 1⟩, ⟨330, 374, 2, 1⟩, ⟨376, 376, 1, -121⟩, ⟨377, 381, 2, 1⟩,
  ⟨385, 385, 1, 210⟩, ⟨386, 388, 2, 1⟩, ⟨390, 390, 1, 206⟩, ⟨391, 391, 1, 1⟩, ⟨393, 394, 1, 205⟩,
  ⟨395, 395, 1, 1⟩, ⟨398, 398, 1, 79⟩, ⟨399, 399, 1, 202⟩, ⟨400, 400, 1, 203⟩, ⟨401, 401, 1, 1⟩,
  ⟨403, 403, 1, 205⟩, ⟨404, 404, 1, 207⟩, ⟨406, 406, 1, 211⟩, ⟨407, 407, 1, 209⟩, ⟨408, 408, 1, 1⟩,
  ⟨412, 412, 1, 211⟩, ⟨413, 413, 1, 213⟩, ⟨415, 415, 1, 214⟩, ⟨416, 420, 2, 1⟩, ⟨422, 422, 1, 218⟩,
  ⟨423, 423, 1, 1⟩, ⟨425, 425, 1, 218⟩, ⟨428, 428, 1, 1⟩, ⟨430, 430, 1, 218⟩, ⟨431, 431, 1, 1⟩,
  ⟨433, 434, 1, 217⟩, ⟨435, 437, 2, 1⟩, ⟨439, 439, 1, 219⟩, ⟨440, 440, 1, 1⟩, ⟨444, 444, 1, 1⟩,
  ⟨452, 452, 1, 2⟩, ⟨453, 453, 1, 1⟩, ⟨455, 455, 1, 2⟩, ⟨456, 456, 1, 1⟩, ⟨458, 458, 1, 2⟩,
  ⟨459, 475, 2, 1⟩, ⟨478, 494, 2, 1⟩, ⟨497, 497, 1, 2⟩, ⟨498, 500, 2, 1⟩, ⟨502, 502, 1, -97⟩,
  ⟨503, 503, 1, -56⟩, ⟨504, 542, 2, 1⟩, ⟨544, 544, 1, -130⟩, ⟨546, 562, 2, 1⟩,
  ⟨570, 570, 1, 10795⟩, ⟨571, 571, 1, 1⟩, ⟨573, 573, 1, -163⟩, ⟨574, 574, 1, 10792⟩,
  ⟨577, 577, 1, 1⟩, ⟨579, 579, 1, -195⟩, ⟨580, 580, 1, 69⟩, ⟨581, 581, 1, 71⟩, ⟨582, 590, 2, 1⟩,
  ⟨880, 882, 2, 1⟩, ⟨886, 886, 1, 1⟩, ⟨895, 895, 1, 116⟩, ⟨902, 902, 1, 38⟩, ⟨904, 906, 1, 37⟩,
  ⟨908, 908, 1, 64⟩, ⟨910, 911, 1, 63⟩, ⟨913, 929, 1, 32⟩, ⟨931, 939, 1, 32⟩, ⟨975, 975, 1, 8⟩,
  ⟨984, 1006, 2, 1⟩, ⟨1012, 1012, 1, -60⟩, ⟨1015, 1015, 1, 1⟩, ⟨1017, 1017, 1, -7⟩,
  ⟨1018, 1018, 1, 1⟩, ⟨1021, 1023, 1, -130⟩, ⟨1024, 1039, 1, 80⟩, ⟨1040, 1071, 1, 32⟩,
  ⟨1120, 1152, 2, 1⟩, ⟨1162, 1214, 2, 1⟩, ⟨1216, 1216, 1, 15⟩, ⟨1217, 1229, 2, 1⟩,
  ⟨1232, 1326, 2, 1⟩, ⟨1329, 1366, 1, 48⟩, ⟨4256, 4293, 1, 7264⟩, ⟨4295, 4295, 1, 7264⟩,
  ⟨4301, 4301, 1, 7264⟩, ⟨5024, 5103, 1, 38864⟩, ⟨5104, 5109, 1, 8⟩, ⟨7305, 7305, 1, 1⟩,
  ⟨7312, 7354, 1, -3008⟩, ⟨7357, 7359, 1, -3008⟩, ⟨7680, 7828, 2, 1⟩, ⟨7838, 7838, 1, -7615⟩,
  ⟨7840, 7934, 2, 1⟩, ⟨7944, 7951, 1, -8⟩, ⟨7960, 7965, 1, -8⟩, ⟨7976, 7983, 1, -8⟩,
  ⟨7992, 7999, 1, -8⟩, ⟨8008, 8013, 1, -8⟩, ⟨8025, 8031, 2, -8⟩, ⟨8040, 8047, 1, -8⟩,
  ⟨8072, 8079, 1, -8⟩, ⟨8088, 8095, 1, -8⟩, ⟨8104, 8111, 1, -8⟩, ⟨8120, 8121, 1, -8⟩,
  ⟨8122, 8123, 1, -74⟩, ⟨8124, 8124, 1, -9⟩, ⟨8136, 8139, 1, -86⟩, ⟨8140, 8140, 1, -9⟩,
  ⟨8152, 8153, 1, -8⟩, ⟨8154, 8155, 1, -100⟩, ⟨8168, 8169, 1, -8⟩, ⟨8170, 8171, 1, -112⟩,
  ⟨8172, 8172, 1, -7⟩, ⟨8184, 8185, 1, -128⟩, ⟨8186, 8187, 1, -126⟩, ⟨8188, 8188, 1, -9⟩,
  ⟨8486, 8486, 1, -7517⟩, ⟨8490, 8490, 1, -8383⟩, ⟨8491, 8491, 1, -8262⟩, ⟨8498, 8498, 1, 28⟩,
  ⟨8544, 8559, 1, 16⟩, ⟨8579, 8579, 1, 1⟩, ⟨9398, 9423, 1, 26⟩, ⟨11264, 11311, 1, 48⟩,
  ⟨11360, 11360, 1, 1⟩, ⟨11362, 11362, 1, -10743⟩, ⟨11363, 11363, 1, -3814⟩,
  ⟨11364, 11364, 1, -10727⟩, ⟨11367, 11371, 2, 1⟩, ⟨11373, 11373, 1, -10780⟩,
  ⟨11374, 11374, 1, -10749⟩, ⟨11375, 11375, 1, -10783⟩, ⟨11376, 11376, 1, -10782⟩,
  ⟨11378, 11378, 1, 1⟩, ⟨11381, 11381, 1, 1⟩, ⟨11390, 11391, 1, -10815⟩, ⟨11392, 11490, 2, 1⟩,
  ⟨11499, 11501, 2, 1⟩, ⟨11506, 11506, 1, 1⟩, ⟨42560, 42604, 2, 1⟩, ⟨42624, 42650, 2, 1⟩,
  ⟨42786, 42798, 2, 1⟩, ⟨42802, 42862, 2, 1⟩, ⟨42873, 42875, 2, 1⟩, ⟨42877, 42877, 1, -35332⟩,
  ⟨42878, 42886, 2, 1⟩, ⟨42891, 42891, 1, 1⟩, ⟨42893, 42893, 1, -42280⟩, ⟨42896, 42898, 2, 1⟩,
  ⟨42902, 42920, 2, 1⟩, ⟨42922, 42922, 1, -42308⟩, ⟨42923, 42923, 1, -42319⟩,
  ⟨42924, 42924, 1, -42315⟩, ⟨42925, 42925, 1, -42305⟩, ⟨42926, 42926, 1, -42308⟩,
  ⟨42928, 42928, 1, -42258⟩, ⟨42929, 42929, 1, -42282⟩, ⟨42930, 42930, 1, -42261⟩,
  ⟨42931, 42931, 1, 928⟩, ⟨42932, 42946, 2, 1⟩, ⟨42948, 42948, 1, -48⟩, ⟨42949, 42949, 1, -42307⟩,
  ⟨42950, 42950, 1, -35384⟩, ⟨42951, 42953, 2, 1⟩, ⟨42955, 42955, 1, -42343⟩, ⟨42956, 42970, 2, 1⟩,
  ⟨42972, 42972, 1, -42561⟩, ⟨42997, 42997, 1, 1⟩, ⟨65313, 65338, 1, 32⟩, ⟨66560, 66599, 1, 40⟩,
  ⟨66736, 66771, 1, 40⟩, ⟨66928, 66938, 1, 39⟩, ⟨66940, 66954, 1, 39⟩, ⟨66956, 66962, 1, 39⟩,
  ⟨66964, 66965, 1, 39⟩, ⟨68736, 68786, 1, 64⟩, ⟨68944, 68965, 1, 32⟩, ⟨71840, 71871, 1, 32⟩,
  ⟨93760, 93791, 1, 32⟩, ⟨93856, 93880, 1, 27⟩, ⟨125184, 125217, 1, 34⟩]

/-- The code points of category `Lu` (upper case letters). -/
def upperRanges : List CaseRun := caseRuns
  "65-90 192-214 216-222 256-310/2 313-327/2 330-374/2 376-377 379 381 385-386 388 390-391 393-395
   398-401 403-404 406-408 412-413 415-416 418 420 422-423 425 428 430-431 433-435 437 439-440 444
   452 455 458 461-475/2 478-494/2 497 500 502-504 506-562/2 570-571 573-574 577 579-582 584-590/2
   880 882 886 895 902 904-906 908 910-911 913-929 931-939 975 978-980 984-1006/2 1012 1015
   1017-1018 1021-1071 1120-1152/2 1162-1214/2 1216-1217 1219-1229/2 1232-1326/2 1329-1366
   4256-4293 4295 4301 5024-5109 7305 7312-7354 7357-7359 7680-7828/2 7838-7934/2 7944-7951
   7960-7965 7976-7983 7992-7999 8008-8013 8025-8031/2 8040-8047 8120-8123 8136-8139 8152-8155
   8168-8172 8184-8187 8450 8455 8459-8461 8464-8466 8469 8473-8477 8484-8488/2 8490-8493 8496-8499
   8510-8511 8517 8579 11264-11311 11360 11362-11364 11367-11371/2 11373-11376 11378 11381
   11390-11392 11394-11490/2 11499 11501 11506 42560-42604/2 42624-42650/2 42786-42798/2
   42802-42862/2 42873 42875 42877-42878 42880-42886/2 42891 42893 42896 42898 42902-42920/2
   42922-42926 42928-42932 42934-42946/2 42948-42951 42953 42955-42956 42958-42972/2 42997
   65313-65338 66560-66599 66736-66771 66928-66938 66940-66954 66956-66962 66964-66965 68736-68786
   68944-68965 71840-71871 93760-93791 93856-93880 119808-119833 119860-119885 119912-119937 119964
   119966-119967 119970 119973-119974 119977-119980 119982-119989 120016-120041 120068-120069
   120071-120074 120077-120084 120086-120092 120120-120121 120123-120126 120128-120132 120134
   120138-120144 120172-120197 120224-120249 120276-120301 120328-120353 120380-120405
   120432-120457 120488-120512 120546-120570 120604-120628 120662-120686 120720-120744 120778
   125184-125217"

/-- The upper case form of a character. -/
def upperChar (c : Char) : Char :=
  if c.toNat < 128 then c.toUpper else Char.ofNat (mapRuns upperRuns c.toNat)

/-- The lower case form of a character. -/
def lowerChar (c : Char) : Char :=
  if c.toNat < 128 then c.toLower else Char.ofNat (mapRuns lowerRuns c.toNat)

/-- An upper case letter of any script. -/
def isUpperLetter (c : Char) : Bool :=
  if c.toNat < 128 then c.isUpper else inRuns upperRanges c.toNat

/-- A text in upper case, character by character. -/
def upper (s : String) : String := s.map upperChar

/-- A text in lower case, character by character. -/
def lower (s : String) : String := s.map lowerChar

end Trellis.Text

/-!
Case folding of Unicode, by which texts that differ in case alone become equal: most characters
fold to their lower case, and some to several characters.
-/

namespace Trellis.Text

/-- The characters that fold to one character other than their lower case. -/
def foldRuns : List CaseRun := [
  ⟨181, 181, 1, 775⟩, ⟨383, 383, 1, -268⟩, ⟨837, 837, 1, 116⟩, ⟨962, 962, 1, 1⟩,
  ⟨976, 976, 1, -30⟩, ⟨977, 977, 1, -25⟩, ⟨981, 981, 1, -15⟩, ⟨982, 982, 1, -22⟩,
  ⟨1008, 1008, 1, -54⟩, ⟨1009, 1009, 1, -48⟩, ⟨1013, 1013, 1, -64⟩, ⟨5024, 5109, 1, 0⟩,
  ⟨5112, 5117, 1, -8⟩, ⟨7296, 7296, 1, -6222⟩, ⟨7297, 7297, 1, -6221⟩, ⟨7298, 7298, 1, -6212⟩,
  ⟨7299, 7300, 1, -6210⟩, ⟨7301, 7301, 1, -6211⟩, ⟨7302, 7302, 1, -6204⟩, ⟨7303, 7303, 1, -6180⟩,
  ⟨7304, 7304, 1, 35267⟩, ⟨7835, 7835, 1, -58⟩, ⟨8126, 8126, 1, -7173⟩, ⟨43888, 43967, 1, -38864⟩]

/-- The characters that fold to several. -/
def foldExpansions : List (Nat × List Nat) := [
  (223, [115, 115]), (304, [105, 775]), (329, [700, 110]), (496, [106, 780]),
  (912, [953, 776, 769]), (944, [965, 776, 769]), (1415, [1381, 1410]), (7830, [104, 817]),
  (7831, [116, 776]), (7832, [119, 778]), (7833, [121, 778]), (7834, [97, 702]),
  (7838, [115, 115]), (8016, [965, 787]), (8018, [965, 787, 768]), (8020, [965, 787, 769]),
  (8022, [965, 787, 834]), (8064, [7936, 953]), (8065, [7937, 953]), (8066, [7938, 953]),
  (8067, [7939, 953]), (8068, [7940, 953]), (8069, [7941, 953]), (8070, [7942, 953]),
  (8071, [7943, 953]), (8072, [7936, 953]), (8073, [7937, 953]), (8074, [7938, 953]),
  (8075, [7939, 953]), (8076, [7940, 953]), (8077, [7941, 953]), (8078, [7942, 953]),
  (8079, [7943, 953]), (8080, [7968, 953]), (8081, [7969, 953]), (8082, [7970, 953]),
  (8083, [7971, 953]), (8084, [7972, 953]), (8085, [7973, 953]), (8086, [7974, 953]),
  (8087, [7975, 953]), (8088, [7968, 953]), (8089, [7969, 953]), (8090, [7970, 953]),
  (8091, [7971, 953]), (8092, [7972, 953]), (8093, [7973, 953]), (8094, [7974, 953]),
  (8095, [7975, 953]), (8096, [8032, 953]), (8097, [8033, 953]), (8098, [8034, 953]),
  (8099, [8035, 953]), (8100, [8036, 953]), (8101, [8037, 953]), (8102, [8038, 953]),
  (8103, [8039, 953]), (8104, [8032, 953]), (8105, [8033, 953]), (8106, [8034, 953]),
  (8107, [8035, 953]), (8108, [8036, 953]), (8109, [8037, 953]), (8110, [8038, 953]),
  (8111, [8039, 953]), (8114, [8048, 953]), (8115, [945, 953]), (8116, [940, 953]),
  (8118, [945, 834]), (8119, [945, 834, 953]), (8124, [945, 953]), (8130, [8052, 953]),
  (8131, [951, 953]), (8132, [942, 953]), (8134, [951, 834]), (8135, [951, 834, 953]),
  (8140, [951, 953]), (8146, [953, 776, 768]), (8147, [953, 776, 769]), (8150, [953, 834]),
  (8151, [953, 776, 834]), (8162, [965, 776, 768]), (8163, [965, 776, 769]), (8164, [961, 787]),
  (8166, [965, 834]), (8167, [965, 776, 834]), (8178, [8060, 953]), (8179, [969, 953]),
  (8180, [974, 953]), (8182, [969, 834]), (8183, [969, 834, 953]), (8188, [969, 953]),
  (64256, [102, 102]), (64257, [102, 105]), (64258, [102, 108]), (64259, [102, 102, 105]),
  (64260, [102, 102, 108]), (64261, [115, 116]), (64262, [115, 116]), (64275, [1396, 1398]),
  (64276, [1396, 1381]), (64277, [1396, 1387]), (64278, [1406, 1398]), (64279, [1396, 1389])]

/-- What a character folds to. -/
def foldChar (c : Char) : List Char :=
  match foldExpansions.lookup c.toNat with
  | some ns => ns.map Char.ofNat
  | none =>
    if foldRuns.any fun r => r.first ≤ c.toNat && c.toNat ≤ r.last then
      [Char.ofNat (mapRuns foldRuns c.toNat)]
    else [lowerChar c]

/-- A text with its case folded. -/
def fold (cs : List Char) : List Char := cs.flatMap foldChar

end Trellis.Text
