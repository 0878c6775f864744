-- SUMMARY: Names of characters, by their first words.

/-!
# Names of characters

Characters can be named in words. The names of a single word are all known here; longer names are told from
other texts by their first word.
-/

namespace LintBridge.Text

/-- Lines of the names of characters that are a single word. -/
def singleNames : List String :=
  ["ABACUS ACCORDION ACK ACKNOWLEDGE ADMETOS ADULT AIRPLANE AKTIESELSKAB ALEMBIC ALERT ALM AMBULANCE",
   "AMPERSAND AMPHORA ANCHOR ANGLE ANKH ANT APC APOLLON APOSTROPHE AQUARIUS ARC ARIES ASSERTION",
   "ASTERISK ASTERISM ASTRAEA AUBERGINE AUTOMOBILE AVOCADO AXE BABY BACKSPACE BACON BADGER BAGEL",
   "BALLOON BANANA BANJO BANK BASEBALL BASKET BAT BATH BATHTUB BATTERY BEANS BEAVER BECAUSE BED",
   "BEETLE BEL BELL BETWEEN BICYCLE BICYCLIST BIKINI BILLIARDS BIRD BISON BLOSSOM BLOWFISH",
   "BLUEBERRIES BOAR BOM BOMB BONE BOOK BOOKMARK BOOKS BOOMERANG BOUQUET BOWLING BOWTIE BOY BPH",
   "BRAIN BREAD BREAST-FEEDING BREVE BRICK BRIEFCASE BRIEFS BROCCOLI BROOM BS BUBBLES BUCKET BUG",
   "BULLET BULLHORN BULLSEYE BURRITO BUS BUTTER BUTTERFLY CACTUS CADUCEUS CALENDAR CAMERA CAMPING",
   "CAN CANCEL CANCER CANDLE CANDY CANOE CAPITULUM CAPRICORN CARET CARON CARROT CASTLE CAT CCH",
   "CEDILLA CERES CGJ CHAINS CHAIR CHERRIES CHESTNUT CHICKEN CHILD CHIPMUNK CHIRON CHOPSTICKS CHURCH",
   "CINEMA CITYSCAPE CLIPBOARD CLOUD COAT COCKROACH COCONUT COFFIN COIN COLON COMET COMMA COMPASS",
   "COMPLEMENT COMPRESSION CONJUNCTION COOKIE COOKING CORAL COUNTERBORE COUNTERSINK COW CR CRAB",
   "CRICKET CROCODILE CROISSANT CROWN CRUTCH CSI CUCUMBER CUPCAKE CUPIDO CUSTARD CUSTOMS CYCLONE",
   "CYLINDRICITY DAGGER DANCER DANGO DC1 DC2 DC3 DC4 DCS DEER DEL DELETE DESERT DIAERESIS DIVIDES",
   "DLE DOCUMENT DODO DOG DOLPHIN DOOR DOUGHNUT DRAGON DRESS DROPLET DUCK DUMPLING DVD EAGLE EAR",
   "EARTH EGG ELEPHANT ELEVATOR ELF ENQ ENQUIRY ENVELOPE EOL EOM EOT EPA ESA ESC ESCAPE ESTIMATES",
   "ETB ETX EXCESS EYE EYEGLASSES EYES FACTORY FAIRY FALAFEL FAMILY FEATHER FENCER FERRY FF FIRE",
   "FIRECRACKER FIREWORKS FISH FISHEYE FLAMINGO FLATBREAD FLATNESS FLEUR-DE-LIS FLOWER FLY FOG FOGGY",
   "FOLDER FONDUE FOOT FOOTPRINTS FORCES FORKING FOUNTAIN FROWN FS FSI FUSE FVS1 FVS2 FVS3 FVS4",
   "GARLIC GEAR GEMINI GENIE GHOST GIRL GLOVES GOAT GOGGLES GOLFER GORILLA GRAPES GS GUARDSMAN",
   "GUITAR HADES HAIRCUT HAMBURGER HAMMER HAMSA HANDBAG HANDBALL HANDSHAKE HEADPHONE HEADSTONE",
   "HEDGEHOG HELICOPTER HERB HIBISCUS HIPPOPOTAMUS HOCHO HOLE HOMOTHETIC HONEYBEE HOOK HOP HORSE",
   "HOSPITAL HOTEL HOURGLASS HOUSE HT HTJ HTS HUT HYGIEA HYPHEN HYPHEN-MINUS HYPODIASTOLE IMP",
   "INCREMENT IND INDEX INFINITY INTEGRAL INTERCALATE INTERROBANG INTERSECTION JACK-O-LANTERN JAR",
   "JEANS JOIN JOYSTICK JUGGLING JUNO JUPITER KAABA KANGAROO KEY KEYBOARD KIMONO KISS KITE KIWIFRUIT",
   "KNOT KOALA KRONOS LABEL LADDER LEDGER LEG LEMON LEO LEOPARD LF LIBRA LIGHTNING LIPS LIPSTICK",
   "LIZARD LLAMA LOBSTER LOCK LOLLIPOP LOTUS LOZENGE LRE LRI LRM LRO LUGGAGE LUNGS MACRON MAGE",
   "MAGNET MAMMOTH MAN MANGO MAXIMIZE MELON MEMO MERCURY MERPERSON METRO MICROBE MICROPHONE",
   "MICROSCOPE MINIBUS MINIDISC MINIMIZE MINY MIRROR MMSP MODELS MONKEY MONORAIL MOSQUE MOSQUITO",
   "MOTORWAY MOUNTAIN MOUSE MOUTH MOYAI MULTIMAP MULTISET MUSHROOM MVS MW NABLA NAK NAND NBH NBSP",
   "NECKTIE NEL NEPTUNE NESSUS NEUTER NEWSPAPER NINJA NL NNBSP NONFORKING NOR NOSE NOTE NOTEBOOK NUL",
   "NULL OCTOPUS ODEN OGONEK OLIVE ONION OPHIUCHUS OPPOSITION ORANGUTAN OSC OTTER OVERLAP OVERLINE",
   "OWL OX OYSTER PACKAGE PAD PAGE PAGER PAGES PAGODA PALLAS PANCAKES PAPERCLIP PARACHUTE",
   "PARAGRAPHOS PARROT PDF PDI PEACH PEACOCK PEANUTS PEAR PEDESTRIAN PENCIL PENGUIN PENTAGRAM",
   "PERPENDICULAR PERSPECTIVE PHOLUS PICK PIE PIG PILL PINATA PINEAPPLE PISCES PISTOL PITCHFORK",
   "PLACARD PLD PLU PLUNGER PLUTO PM POODLE POPCORN POSEIDON POSTBOX POTATO POUCH PRECEDES PRETZEL",
   "PRIME PRINCE PRINCESS PRINTER PROJECTIVE PROPORTION PROSERPINA PU1 PU2 PURSE PUSHPIN QUINCUNX",
   "RABBIT RACCOON RADIO RAIN RAINBOW RAM RAT RATIO RAZOR RECEIPT RESPONSE RESTROOM RHINOCEROS RI",
   "RIBBON RIFLE RING RLE RLI RLM RLO ROCK ROCKET ROOSTER ROSE ROSETTE ROWBOAT RS RULE-DELAYED",
   "RUNNER SAGITTARIUS SAILBOAT SALTIRE SANDWICH SARI SATELLITE SATURN SAUROPOD SAXOPHONE SCALES",
   "SCARF SCHOOL SCI SCOOTER SCORPION SCORPIUS SCREEN SCREWDRIVER SCROLL SCRUPLE SEAL SEAT SECTOR",
   "SEDNA SEEDLING SEGMENT SELFIE SEMICOLON SEMISEXTILE SESQUIQUADRATE SEXTILE SGC SHAMROCK SHARK",
   "SHEEP SHIELD SHIP SHORTCAKE SHORTS SHOWER SHRIMP SHRUG SHY SI SINGLE-SHIFT-2 SINGLE-SHIFT-3",
   "SKATEBOARD SKIER SKULL SKUNK SLED SLOPE SLOTH SMILE SNAIL SNAKE SNOWBOARDER SNOWFLAKE SNOWMAN SO",
   "SOCKS SOFTBALL SOH SOLIDUS SOS SP SPA SPACE SPAGHETTI SPARKLE SPARKLES SPEAKER SPEEDBOAT SPIDER",
   "SPONGE SPOON SQUID SS2 SS3 SSA ST STADIUM STATION STETHOSCOPE STOPWATCH STRAIGHTNESS STRAWBERRY",
   "STS STUPA STX SUB SUBSTITUTE SUCCEEDS SUN SUNFLOWER SUNRISE SUPERHERO SUPERVILLAIN SURFER SUSHI",
   "SWAN SWIMMER SYMMETRY SYN SYNAGOGUE SYRINGE T-REX T-SHIRT TAB TACO TAMALE TANGERINE TAURUS TAXI",
   "TEAPOT TELESCOPE TELEVISION TENT THEREFORE THERMODYNAMIC THERMOMETER THUNDERSTORM TICKET TIGER",
   "TILDE TINY TOILET TOMATO TONGUE TOOLBOX TOOTH TOOTHBRUSH TRACKBALL TRACTOR TRAIN TRAM TRANSPLUTO",
   "TRICOLON TROLL TROLLEYBUS TROPHY TRUE TRUMPET TULIP TURKEY TURTLE UMBRELLA UNDERTIE UNION URANUS",
   "US VAMPIRE VERSICLE VESTA VIDEOCASSETTE VIOLIN VIRGO VOLCANO VOLLEYBALL VT VTS VULCANUS WAFFLE",
   "WASTEBASKET WATCH WATERMELON WEDDING WHALE WHEEL WINDOW WJ WOMAN WOOD WORM WRENCH WRESTLERS",
   "X-RAY XOR YO-YO ZEUS ZOMBIE ZWJ ZWNBSP ZWNJ ZWSP"]

/-- Lines of the first words of the names of characters that have several. -/
def firstWords : List String :=
  ["AC ACCOUNT ACTIVATE ACUTE ADDRESSED ADHESIVE ADI ADLAM ADMISSION AEGEAN AERIAL AFGHANI AHOM",
   "AIRPLANE ALARM ALCHEMICAL ALEF ALIEN ALL ALMOST ALTERNATE ALTERNATIVE AMALGAMATION AMERICAN",
   "ANATOLIAN ANATOMICAL AND ANGER ANGLE ANGRY ANGSTROM ANGUISHED ANTENNA ANTICLOCKWISE APL",
   "APPLICATION APPROACHES APPROXIMATELY ARABIC ARABIC-INDIC ARMENIAN ARROW ARROWHEAD-SHAPED",
   "ARTICULATED ARTIST ASCENDING ASCIA ASTERISK ASTONISHED ASTRONOMICAL ASYMPTOTICALLY ATHLETIC ATOM",
   "AUSTRAL AUTO AUTOMATED AVESTAN BABY BACK BACK-TILTED BACKSLANTED BACTRIAN BADMINTON BAGGAGE",
   "BAGUETTE BALINESE BALL BALLET BALLOON-SPOKED BALLOT BAMUM BANKNOTE BAR BARBER BASKETBALL BASSA",
   "BATAK BEACH BEAMED BEAR BEARDED BEATING BEER BELL BELLHOP BENGALI BENT BENTO BENZENE BET",
   "BEVERAGE BHAIKSUKI BIG BILLED BIOHAZARD BIRTHDAY BITCOIN BITING BLACK BLACK-FEATHERED",
   "BLACK-LETTER BLANK BLOCK BLUE BOLD BOOKMARK BOPOMOFO BOTTLE BOTTOM BOUQUET BOW BOWL BOWTIE BOX",
   "BOXING BOYS BRAHMI BRAILLE BREAK BRIDE BRIDGE BROKEN BROWN BUBBLE BUGINESE BUHID BUILDING BULLET",
   "BULLHORN BUS BUST BUSTS BYTE BYZANTINE CADA CALL CAMERA CANADIAN CANCEL CANCELLATION CANNED CAR",
   "CARD CARE CARET CARIAN CAROUSEL CARP CARPENTRY CARRIAGE CAT CAUCASIAN CAUTION CEDI CELTIC CENT",
   "CENTRE CENTRELINE CHAKMA CHAM CHARACTER CHART CHECK CHECKER CHEERING CHEESE CHEQUERED CHEROKEE",
   "CHERRY CHI CHILDREN CHOCOLATE CHORASMIAN CHRISTMAS CIRCLE CIRCLED CIRCULATION CIRCUMFLEX CIRCUS",
   "CITYSCAPE CJK CLAMSHELL CLAPPER CLAPPING CLASSICAL CLEAR CLINKING CLOCK CLOCKWISE CLOSE CLOSED",
   "CLOUD CLOWN COCKTAIL COLLISION COLON COMBINING COMMERCIAL COMPOSITION CONFETTI CONFOUNDED",
   "CONFUSED CONGRUENT CONICAL CONSTRUCTION CONTAINS CONTINUOUS CONTOUR CONTROL CONVENIENCE COOKED",
   "COPTIC COPYLEFT COPYRIGHT CORNISH CORRESPONDS COUCH COUNTING COUPLE COW CREDIT CRESCENT CRICKET",
   "CROSS CROSSED CROSSING CRUZEIRO CRYING CRYSTAL CUBE CUNEIFORM CUP CURLING CURLY CURRENCY CURRY",
   "CURVED CUT CYPRIOT CYPRO-MINOAN CYRILLIC DAGGER DALET DARK DASH DASHED DATA DEAF DECIDUOUS",
   "DECIMAL DECREASE DEGREE DELIVERY DELTA DENTISTRY DEPARTMENT DERELICT DESCENDING DESERET DESERT",
   "DESKTOP DEVANAGARI DEVICE DIAMETER DIAMOND DIE DIESEL DIFFERENCE DIGIT DIGRAM DIMENSION DINGBAT",
   "DIRECT DISABLED DISAPPOINTED DISCONTINUOUS DISGUISED DITTO DIVES DIVING DIVISION DIVORCE DIYA",
   "DIZZY DNA DO DOCUMENT DOES DOG DOGRA DOLLAR DOMINO DONG DOT DOTTED DOUBLE DOUBLE-ENDED",
   "DOUBLE-LINE DOUBLE-STRUCK DOUBLED DOVE DOWN DOWN-POINTING DOWNWARD DOWNWARDS DRACHMA DRAFTING",
   "DRAGON DRIVE DROMEDARY DROOLING DROP DRUM DUPLOYAN E-MAIL EAR EARTH EAST EDITORIAL EGYPTIAN",
   "EIGHT EIGHTH EJECT ELBASAN ELECTRIC ELECTRICAL ELEMENT ELYMAIC EM EMOJI EMPHASIS EMPTY EN END",
   "ENTER ENVELOPE EQUAL EQUALS EQUIANGULAR EQUIVALENT ERASE ERIS ERROR-BARRED ESTIMATED ETHIOPIC",
   "EULER EURO EURO-CURRENCY EUROPEAN EVERGREEN EXCLAMATION EXPRESSIONLESS EXTENDED EXTRATERRESTRIAL",
   "EXTREMELY FACE FACSIMILE FALLEN FALLING FARSI FATHER FAX FEARFUL FEMALE FEMININE FERRIS FIELD",
   "FIGURE FILE FILM FINITE FIRE FIREWORK FIRST FISH FISHING FISTED FIVE FLAG FLAT FLEXED FLOPPY",
   "FLORAL FLOWER FLUSHED FLYING FOR FORK FORKED FORM FORTUNE FOUR FOUR-PER-EM FOURTH FOX FRACTION",
   "FRAME FREEZING FRENCH FRIED FROG FRONT-FACING FRONT-TILTED FROWNING FUEL FULL FULLWIDTH FUNCTION",
   "FUNERAL GAME GEAR GEM GEOMETRIC GEOMETRICALLY GEORGIAN GERMAN GETA GIMEL GIRAFFE GIRLS",
   "GLAGOLITIC GLASS GLEICH GLOBE GLOWING GOAL GOTHIC GRADUATION GRANTHA GRAVE GREATER-THAN GREEK",
   "GREEN GRIMACING GRINNING GROUP GROWING GUARANI GUIDE GUJARATI GUNJALA GURMUKHI HAIR HALFWIDTH",
   "HAMMER HAMSTER HAND HANGUL HANGZHOU HANIFI HANUNOO HAPPY HARD HATCHING HATRAN HEADSTONE",
   "HEAR-NO-EVIL HEART HEAVY HEBREW HELLSCHREIBER HELM HELMET HENTAIGANA HERMITIAN HEXAGRAM HIGH",
   "HIGH-HEELED HIGH-SPEED HIKING HINDU HIRAGANA HISTORIC HOLLOW HONEY HORIZONTAL HORSE HOT",
   "HOURGLASS HOUSE HRYVNIA HUGGING HUNDRED HUSHED HYPHEN HYPHENATION HYSTERESIS I ICE IDENTICAL",
   "IDENTIFICATION IDEOGRAPHIC IMAGE IMPERIAL INBOX INCOMING INCOMPLETE INCREASE INCREASES INDEX",
   "INDIAN INDIC INFINITY INFORMATION INHIBIT INPUT INSCRIPTIONAL INSERTION INTEGRAL INTERIOR",
   "INTERLINEAR INTERLOCKED INTERSECTION INVERSE INVERTED INVISIBLE IZAKAYA JAPANESE JAVANESE JIGSAW",
   "KAITHI KANGXI KANNADA KATAKANA KATAKANA-HIRAGANA KAYAH KELVIN KEYBOARD KEYCAP KHAROSHTHI KHITAN",
   "KHMER KHOJKI KHUDAWADI KIP KISS KISSING KNEELING KOREAN L LAB LACROSSE LADY LANGUAGE LAO LARGE",
   "LARGER LARI LAST LATIN LEAF LEAFY LEFT LEFT-FACING LEFT-HANDED LEFT-POINTING LEFT-SHADED",
   "LEFT-SIDE LEFT-TO-RIGHT LEFTWARDS LEPCHA LESS-THAN LEVEL LIGATURE LIGHT LIGHTNING LIMBU LIMITED",
   "LINE LINEAR LINK LINKED LION LIRA LISU LIVRE LOCK LOCKING-SHIFT LOGICAL LONG LOTION LOUDLY LOVE",
   "LOW LOWER LOZENGE LYCIAN LYDIAN LYING MAGIC MAHAJANI MAHJONG MAKASAR MALAYALAM MALE MALTESE MAN",
   "MANAT MANDAIC MANICHAEAN MANS MANTELPIECE MANUAL MAP MAPLE MARCHEN MARRIAGE MARTIAL MASARAM",
   "MASCULINE MASK MASU MATE MATHEMATICAL MAYAN MEASURED MEAT MECHANICAL MEDEFAIDRIN MEDIEVAL MEDIUM",
   "MEETEI MELTING MENDE MENORAH MENS MEROITIC MESSAGE METRICAL MIAO MICRO MIDDLE MIDLINE MILITARY",
   "MILKY MILL MINUS MINUS-OR-PLUS MIRROR MOBILE MODERN MODI MODIFIER MODULO MONEY MONEY-MOUTH",
   "MONGOLIAN MONKEY MONOGRAM MONOSTABLE MOOD MOON MOTHER MOTOR MOTORIZED MOUNT MOUNTAIN MOUSE MOVIE",
   "MRO MUCH MULTANI MULTIPLE MULTIPLICATION MULTISET MUSIC MUSICAL MYANMAR N-ARY NABATAEAN NAIL",
   "NAIRA NAME NANDINAGARI NARROW NATIONAL NAUSEATED NAZAR NEGATED NEGATIVE NEITHER NEPTUNE NERD",
   "NEST NESTING NEUTRAL NEW NEWA NEWLINE NEXT NIGHT NKO NO NO-BREAK NOMINAL NOMISMA NON-BREAKING",
   "NON-POTABLE NORDIC NORMAL NORTH NORTHEAST-POINTING NOT NOTCHED NOTE NOTEBOOK NUMBER NUMERO NUSHU",
   "NUT NYIAKENG OBJECT OBLIQUE OBSERVER OCR OCTAGONAL OFFICE OGHAM OHM OIL OK OL OLD OLDER OM ON",
   "ONCOMING ONE ONE-PIECE OPEN OPEN-CIRCUIT-OUTPUT OPEN-OUTLINED OPERATING OPTICAL OPTION OR ORANGE",
   "ORIGINAL ORIYA ORNATE ORTHODOX OSAGE OSMANYA OTTOMAN OUNCE OUTBOX OUTLINED OVERHEATED",
   "OVERLAPPING PADDING PAGE PAHAWH PALM PALMS PALMYRENE PANDA PARAGRAPH PARAGRAPHUS PARALLEL",
   "PARENTHESIZED PART PARTIAL PARTIALLY-RECYCLED PARTNERSHIP PARTY PASSED PASSENGER",
   "PASSIVE-PULL-DOWN-OUTPUT PASSIVE-PULL-UP-OUTPUT PASSPORT PAU PAW PEACE PEN PENSIVE PEOPLE PER",
   "PERCENT PERFORMING PERMANENT PERPENDICULAR PERSEVERING PERSON PERSONAL PESETA PESO PETRI",
   "PHAGS-PA PHAISTOS PHILIPPINE PHOENICIAN PICKUP PIG PILCROW PILE PINCHED PINCHING PINE PINWHEEL",
   "PITCHFORK PLACE PLANCK PLAYGROUND PLAYING PLUS PLUS-MINUS PLUTO POCKET POLICE POP PORTABLE",
   "POSITION POSTAL POT POTABLE POTTED POULTRY POUND POURING POUTING POWER PRAYER PRECEDES PREGNANT",
   "PRESCRIPTION PRESENTATION PREVIOUS PRINT PRINTER PRIVACY PRIVATE PROBING PROHIBITED PROPERTY",
   "PROPORTIONAL PSALTER PUBLIC PUNCTUATION PUNCTUS PURPLE PUT QUADRANT QUADRUPLE QUARTER QUATERNION",
   "QUESTION QUESTIONED QUOTATION RABBIT RACING RADICAL RADIO RADIOACTIVE RAILWAY RAISED RECORD",
   "RECREATIONAL RECYCLED RECYCLING RED REFERENCE REGIONAL REGISTERED REJANG RELIEVED REMINDER",
   "REPLACEMENT RESTRICTED RETURN REVERSE REVERSED REVOLVING RIAL RIBBON RICE RIGHT RIGHT-FACING",
   "RIGHT-HANDED RIGHT-POINTING RIGHT-SHADED RIGHT-SIDE RIGHT-TO-LEFT RIGHTHAND RIGHTWARDS RING",
   "RINGED RINGING RISING ROASTED ROBOT ROLL ROLLED-UP ROLLER ROLLING ROMAN ROTATED ROUND ROUNDED",
   "RUBLE RUGBY RUMI RUNIC RUNNING RUPEE RUSSIAN S SAFETY SAKE SALT SALUTING SAMARITAN SANS-SERIF",
   "SATELLITE SAURASHTRA SCHOOL SCRIPT SECOND SECTION SEE-NO-EVIL SEGMENTED SEMIDIRECT SEPARATED",
   "SERIOUS SERVICE SESAME SET SEWING SHADOWED SHALLOW SHARADA SHAVED SHAVIAN SHIFT SHINTO SHOCKED",
   "SHOOTING SHOPPING SHORT SHORTHAND SHOULDERED SHUFFLE SIDDHAM SIDEWAYS SIGN SIGNWRITING",
   "SILHOUETTE SIMILAR SINE SINGLE SINHALA SIX SIX-PER-EM SIXTEEN SKI SKULL SLANTED SLAVONIC",
   "SLEEPING SLEEPY SLEUTH SLICE SLIGHTLY SLOPING SLOT SMALL SMALLER SMASH SMILING SMIRKING SMOKING",
   "SNEEZING SNOW SNOWMAN SOCCER SOFT SOFTWARE-FUNCTION SOGDIAN SOLID SOLIDUS SOM SOON SORA SOUND",
   "SOUTH SOYOMBO SPARKLING SPEAK-NO-EVIL SPEAKER SPEAKING SPEECH SPESMILO SPHERICAL SPIDER SPIRAL",
   "SPLASHING SPOOL SPORTS SPOUTING SQUARE SQUARED SQUAT STAFF STAMPED STANDING STAR START STATUE",
   "STEAM STEAMING STENOGRAPHIC STICK STOCK STRAIGHT STRESS STRICTLY STRING STUDIO STUFFED SUBSCRIPT",
   "SUBSET SUCCEEDS SUMMATION SUN SUNDANESE SUNRISE SUNSET SUPERSCRIPT SUPERSET SURFACE SUSPENSION",
   "SWASH SWUNG SYLOTI SYMBOL SYNCHRONOUS SYRIAC TABLE TAG TAGALOG TAGBANWA TAI TAKEOUT TAKRI TALLY",
   "TAMIL TANABATA TANGSA TANGUT TAPE TEACUP TEAR-OFF TEARDROP-BARBED TEARDROP-SPOKED TEDDY",
   "TELEPHONE TELUGU TENGE TENNIS TEST TETRAGRAM THAANA THAI THERE THIN THINKING THIRD THONG THOUGHT",
   "THREE THREE-D THREE-EM THREE-PER-EM THUMBS THUNDER TIBETAN TIE TIFINAGH TIGER TIGHT TILDE TIMER",
   "TIMES TINY TIRED TIRHUTA TIRONIAN TOKYO TOP TORTOISE TOTAL TOTO TRADE TRAM TRANSVERSAL TRIANGLE",
   "TRIANGLE-HEADED TRIANGULAR TRIDENT TRIGRAM TRIPLE TROPICAL TRUE TUGRIK TUMBLER TURKISH TURNED",
   "TWELVE TWISTED TWO TWO-EM UGARITIC UMBRELLA UNAMUSED UNCERTAINTY UNDO UNICORN UNION UNIT UNITED",
   "UNIVERSAL UNMARRIED UP UP-POINTING UPPER UPSIDE-DOWN UPWARDS VAI VARIATION VECTOR VEDIC VERTICAL",
   "VERY VIBRATION VICTORY VIDEO VIETNAMESE VIEWDATA VITHKUQI VOIDED VOLUME VULGAR WANCHO WANING",
   "WARANG WARNING WATER WAVE WAVING WAVY WAXING WEARY WEDGE-TAILED WEIERSTRASS WEIGHT WEST WHEEL",
   "WHEELCHAIR WHITE WHITE-FEATHERED WIDE-HEADED WIGGLY WILTED WIND WINE WINKING WIRED WOLF WOMAN",
   "WOMANS WOMENS WON WORD WORLD WORRIED WRAPPED WREATH WRITING X XIANGQI YAWNING YELLOW YEN YEZIDI",
   "YI YIN Z ZANABAZAR ZEBRA ZERO ZIPPER-MOUTH ZNAMENNY"]

/-- Whether a word is in some lines of words. -/
def hasWord (lines : List String) (word : String) : Bool :=
  lines.any fun line => (line.splitOn " ").contains word

/-- Whether a text, in letters of either case, can name a character. -/
def isCharacterName (s : String) : Bool :=
  match s.toUpper.splitOn " " with
  | [word] => hasWord singleNames word
  | word :: _ => hasWord firstWords word
  | [] => false

end LintBridge.Text
