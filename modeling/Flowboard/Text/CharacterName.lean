import Std.Data.HashMap
import Flowboard.Text.Case
import Flowboard.Text.Decomposition

/-! Names of characters: those of the most common scripts, punctuation, symbols and pictures from a
table, and those of marked and small letters, ideographs, syllables and patterns of dots by rule. -/
namespace Flowboard.Text

/-- What the short words in the table of names stand for. -/
def nameWords : String := "
a=CAPITAL LETTER;b=BOX DRAWINGS;c=WITH;d=HIRAGANA;e=REGIONAL INDICATOR SYMBOL;f=COMBINING;
g=LETTER;h=LATIN;i=FACE;j=SYMBOL;k=SMALL;l=RIGHT;m=GREEK;n=ROMAN NUMERAL;o=CYRILLIC;p=HEAVY;
q=DOUBLE;r=VERTICAL;s=HORIZONTAL;t=LIGHT;u=SIGN;v=BLACK;w=LEFT;x=AND;y=WHITE;z=VULGAR FRACTION;
aa=TRIANGLE;ab=ARROW;ac=KATAKANA;ad=ARABIC;ae=RIGHTWARDS;af=EQUAL TO;ag=RIGHT-POINTING;ah=CAPITAL;
ai=QUOTATION MARK;aj=SUPERSCRIPT;ak=LEFT-POINTING;al=SQUARE;am=CIRCLE;an=CIRCLED NUMBER;
ao=SMILING;ap=BELOW;aq=DOWN;ar=HEBREW;as=SUBSCRIPT;at=EMOJI MODIFIER FITZPATRICK;au=BRACKET;
av=SINGLE;aw=LEFTWARDS;ax=EXCLAMATION MARK;ay=QUADRANT UPPER;az=LOWER;ba=DOWN-POINTING;
bb=KATAKANA-HIRAGANA;bc=STROKE;bd=REVERSED;be=ABOVE;bf=DOUBLE-STRUCK;bg=CIRCUMFLEX;bh=PERSON;
bi=OPEN MOUTH;bj=DOWNWARDS;bk=UP-POINTING;bl=TRIGRAM FOR;bm=RECYCLING;bn=POINTING BACKHAND INDEX;
bo=MARK;bp=OPERATOR;bq=DIAMOND;br=LARGE;bs=POINTING INDEX;bt=HEART;bu=EIGHTHS BLOCK;bv=ASTERISK;
bw=THREE;bx=INVERTED;by=TONOS;bz=QUARTER MOON;ca=DIALYTIKA;cb=ANGLE;cc=LIGATURE;cd=SCRIPT;
ce=INTEGRAL;cf=PARENTHESIS;cg=UPSILON;ch=UPWARDS;ci=CIRCLED;cj=CROSS;ck=IDEOGRAPHIC;
cl=APPROXIMATELY;cm=OCLOCK;cn=SPACE;co=HOOK;cp=UPPER;cq=ONE EIGHTH BLOCK;cr=JAPANESE;
cs=GREATER-THAN;ct=ACCENT;cu=LUNATE SIGMA;cv=BLACK-LETTER;cw=CLOCK;cx=TRIANGLE-HEADED;cy=SUPERSET
OF;cz=QUADRUPLE DASH;da=PLASTICS;db=EYES;dc=CLOCKWISE;dd=OPEN;de=CHESS;df=QUESTION;dg=TILDE;
dh=MINUS;di=ONE;dj=LESS-THAN;dk=TRIPLE;dl=TELEPHONE;dm=STAR;dn=SUBSET OF;do=MEDIUM;dp=CLOSED;
dq=STUCK-OUT TONGUE;dr=DIGIT;ds=FOUR;dt=HAND;du=OVERLAY;dv=FIVE;dw=SEVEN;dx=EQUALS;dy=MIDDLE DOT;
dz=HALF;ea=MULTIPLICATION;eb=COPTIC;ec=ZERO WIDTH;ed=DASH;ee=BULLET;ef=TWO HEADED;eg=DIAGONAL;
eh=BLOCK;ei=GRINNING;ej=LINE;ek=LEFT-TO-RIGHT;el=RIGHT-TO-LEFT;em=ANTICLOCKWISE;en=EQUIVALENT TO;
eo=CRESCENT MOON;ep=HOLDING HANDS;eq=EIGHT;er=DIAERESIS;es=SOUND;et=RECTANGLE;eu=ITERATION;
ev=TURNED;ew=EPSILON;ex=HUNDRED;ey=SQUARED;ez=RAISED;fa=ORANGE;fb=MOBILE PHONE;fc=REPLACEMENT
CHARACTER;fd=COMMA;fe=NOT;ff=DIVISION;fg=FROM BAR;fh=N-ARY;fi=ELECTRIC;fj=QUADRANT;fk=WATER;
fl=MOUNTAIN;fm=FROWNING;fn=FLAG;fo=SCISSORS;fp=ENVELOPE;fq=ORNAMENT;fr=EARTH GLOBE;fs=GREEN;
ft=MOUTH;fu=BANKNOTE;fv=ONCOMING;fw=PLACE MEDAL;fx=DOT;fy=PLUS;fz=TWO;ga=HYPHEN;gb=RING;
gc=TRIANGULAR;gd=FOR;ge=ELEMENT OF;gf=CONTAINS AS MEMBER;gg=BALLOT;gh=MONKEY;gi=SILHOUETTE;
gj=ARROWS;gk=COLD SWEAT;gl=SOLIDUS;gm=ORDINAL INDICATOR;gn=ACUTE;go=QUARTER;gp=BREVE;gq=SHORT;
gr=FINAL;gs=PRIME;gt=LOGICAL;gu=POINTER;gv=POINTED;gw=GLASS;gx=MUSICAL;gy=MAILBOX;gz=SPEAKER;
ha=KISSING;hb=IOTA;hc=TACK;hd=FARSI YEH;he=SEPARATOR;hf=INVISIBLE;hg=SUIT;hh=LINES CONVERGING;
hi=SNOWFLAKE;hj=ARROWHEAD;hk=MOON;hl=CHRISTMAS;hm=HIGH-SPEED TRAIN;hn=HIGH-REVERSED-9;ho=PLANCK
CONSTANT;hp=CROSSHATCH FILL;hq=GRAVE;hr=NO-BREAK;hs=QUARTERS;ht=OVERLINE;hu=DOTTED;hv=ALEF;
hw=HAMZA;hx=ELLIPSIS;hy=THOUSAND;hz=CENTRE;ia=ELEVEN;ib=TWELVE;ic=ASYMPTOTICALLY;id=UMBRELLA;
ie=FLOWER;if=OUTLINED;ig=BALL;ih=BALLOON-SPOKED;ii=CORNER;ij=VOICED;ik=BOTTLE;il=CAMERA;im=WOMANS;
in=POLICE;io=INPUT;ip=TIGHTLY-CLOSED;iq=COVERING;ir=YPOGEGRAMMENI;is=ARCHAIC KOPPA;
it=GEOMETRICALLY;iu=PARALLELOGRAM;iv=NINE;iw=DIGAMMA;ix=OMICRON;iy=OVER;iz=EIGHTHS;ja=WAVE;
jb=INTERSECTION;jc=CONTOUR;jd=NEITHER;je=IDENTICAL TO;jf=CROSSED;jg=WITHOUT;jh=MATHEMATICAL;
ji=BABY;jj=BALLOON;jk=MACHINE;jl=CAT;jm=CONSTRUCTION;jn=BLUE;jo=CANCELLATION;jp=LETTERS;jq=TEARS
OF JOY;jr=HEART-SHAPED;js=DISAPPOINTED;jt=POUTING;ju=RAILWAY;jv=COLON;jw=BAR;jx=INFORMATION;
jy=PARALLEL TO;jz=CHECK;ka=SHOGI PIECE;kb=FIRST;kc=PAPER;kd=SEMI-VOICED;ke=HORSE;kf=POST OFFICE;
kg=HANDS;kh=WOMAN;ki=CHART;kj=FILE FOLDER;kk=DOLLAR;kl=APOSTROPHE;km=FULL;kn=STOP;ko=MACRON;
kp=DEGREE;kq=LONG;kr=TONE;ks=BRIDGE;kt=FIFTHS;ku=EIGHTH;kv=SOUTH EAST;kw=PROPORTION;kx=ALMOST;
ky=CONTAINING;kz=FILL;la=HAMMER;lb=PENCIL;lc=LENTICULAR;ld=TREE;le=RICE;lf=DECORATION;lg=HEARTS;
lh=YELLOW;li=PURPLE;lj=BOOK;lk=BRIGHTNESS;ll=MAGNIFYING;lm=BUTTON;ln=CRYING;lo=AUTOMOBILE;lp=SIX;
lq=COPYRIGHT;lr=RETROFLEX;ls=EMBEDDING;lt=HOURGLASS;lu=UNIVERSAL;lv=RED;lw=ICE CREAM;lx=REVOLVING;
ly=BICYCLIST;lz=ZERO;ma=CURLY;mb=CURRENCY;mc=DELTA;md=LOOP;me=TAIL;mf=SAMPI;mg=ALPHA;mh=OMEGA;
mi=THETA;mj=DOTS;mk=OVERRIDE;ml=FRACTION"

/-- Names of characters in blocks: the number of the first character, and the names from it on. A
place without a name is empty. -/
def nameBlocks : String := "
20|cn|ax|ai|NUMBER u|kk u|PERCENT u|AMPERSAND|kl|w cf|l cf|bv|fy u|fd|HYPHEN-MINUS|km kn|gl|dr lz|
dr di|dr fz|dr bw|dr ds|dr dv|dr lp|dr dw|dr eq|dr iv|jv|SEMICOLON|dj u|dx u|cs u|df bo|COMMERCIAL
AT|h a A|h a B|h a C|h a D|h a E|h a F|h a G|h a H|h a I|h a J|h a K|h a L|h a M|h a N|h a O|h a
P|h a Q|h a R|h a S|h a T|h a U|h a V|h a W|h a X|h a Y|h a Z|w al au|REVERSE gl|l al au|bg ct|LOW
ej|hq ct# 7B|w ma au|r ej|l ma au|dg#
A0|hr cn|bx ax|CENT u|POUND u|mb u|YEN u|BROKEN jw|SECTION u|er|lq u|FEMININE gm|ak q cb ai|fe u|
SOFT ga|REGISTERED u|ko|kp u|PLUS-MINUS u|aj fz|aj bw|gn ct|MICRO u|PILCROW u|dy|CEDILLA|aj di|
MASCULINE gm|ag q cb ai|z di go|z di dz|z bw hs|bx df bo# C6|h a AE# D0|h a ETH#
D7|ea u|h a O c bc# DE|h a THORN|h k g SHARP S# F7|ff u# 110|h a D c bc# 126|h a H c bc#
131|h k g DOTLESS I|h ah cc IJ# 138|h k g KRA# 13F|h a L c dy||h a L c bc#
149|h k g N PRECEDED BY kl|h a ENG# 152|h ah cc OE# 166|h a T c bc#
17F|h k g kq S||h a B c co|h a B c TOPBAR||h a kr lp||h a dd O|h a C c co||h a AFRICAN D|h a D c
co|h a D c TOPBAR||h k g ev mc|h a bd E|h a SCHWA|h a dd E|h a F c co||h a G c co|h a GAMMA|h k g
HV|h a hb|h a I c bc|h a K c co|||h k g LAMBDA c bc|h a ev M|h a N c w co||h a O c MIDDLE dg|||h a
OI||h a P c co||h g YR|h a kr fz||h a ESH|h g bd ESH md|h k g T c PALATAL co|h a T c co||h a T c
lr co|||h a cg|h a V c co|h a Y c co||h a Z c bc||h a EZH|h a EZH bd||h k g EZH c me|h g fz c bc|h
a kr dv||h g bx GLOTTAL kn c bc|h g WYNN# 1DD|h k g ev E# 1E4|h a G c bc#
1F1|h a DZ|h a D c k g Z||||h a HWAIR|h a WYNN# 21C|h a YOGH||||h a N c kq l LEG||||h a Z c co#
255|h k g C c CURL|h k g D c me||h k g bd E#
300|f hq ct|f gn ct|f bg ct|f dg|f ko|f ht|f gp|f fx be|f er|f co be|f gb be|f q gn ct|f CARON|f r
ej be|f q r ej be|f q hq ct|f CANDRABINDU|f bx gp|f ev fd be|f fd be|f bd fd be|f fd be l|f hq ct
ap|f gn ct ap|f w hc ap|f l hc ap|f w cb be|f HORN|f w dz gb ap|f UP hc ap|f aq hc ap|f fy u ap|f
dh u ap|f PALATALIZED co ap|f lr co ap|f fx ap|f er ap|f gb ap|f fd ap|f CEDILLA|f OGONEK|f r ej
ap|f ks ap|f bx q ARCH ap|f CARON ap|f bg ct ap|f gp ap|f bx gp ap|f dg ap|f ko ap|f LOW ej|f q
LOW ej|f dg du|f gq bc du|f kq bc du|f gq gl du|f kq gl du|f l dz gb ap|f bx ks ap|f al ap|f
SEAGULL ap|f X be|f r dg|f q ht|f hq kr bo|f gn kr bo|f m PERISPOMENI|f m KORONIS|f m ca by|f m
ir#
370|m a HETA||m a ARCHAIC mf||m NUMERAL u|m az NUMERAL u|m a PAMPHYLIAN iw||||m ir||||m df bo|m a
YOT|||||m by|m ca by|m a mg c by|m ANO TELEIA|m a ew c by|m a ETA c by|m a hb c by||m a ix c by||m
a cg c by|m a mh c by|m k g hb c ca x by|m a mg|m a BETA|m a GAMMA|m a mc|m a ew|m a ZETA|m a ETA|
m a mi|m a hb|m a KAPPA|m a LAMDA|m a MU|m a NU|m a XI|m a ix|m a PI|m a RHO||m a SIGMA|m a TAU|m
a cg|m a PHI|m a CHI|m a PSI|m a mh|m a hb c ca|m a cg c ca|m k g mg c by|m k g ew c by|m k g ETA
c by|m k g hb c by|m k g cg c ca x by# 3C2|m k g gr SIGMA#
3CA|m k g hb c ca|m k g cg c ca|m k g ix c by|m k g cg c by|m k g mh c by|m ah KAI j|m BETA j|m mi
j|m cg c co j|m cg c gn x co j|m cg c er x co j|m PHI j|m PI j|m KAI j|m g is|m k g is|m g STIGMA|
m k g STIGMA|m g iw|m k g iw|m g KOPPA|m k g KOPPA|m g mf|m k g mf|eb a SHEI||eb a FEI||eb a KHEI|
|eb a HORI||eb a GANGIA||eb a SHIMA||eb a DEI||m KAPPA j|m RHO j|m cu j|m g YOT|m ah mi j|m LUNATE
ew j|m bd LUNATE ew j|m a SHO||m ah cu j|m a SAN||m RHO c bc j|m ah bd cu j|m ah hu cu j|m ah bd
hu cu j||o a IO|o a DJE|o a GJE|o a UKRAINIAN IE|o a DZE|o a BYELORUSSIAN-UKRAINIAN I|o a YI|o a
JE|o a LJE|o a NJE|o a TSHE|o a KJE||o a gq U|o a DZHE|o a A|o a BE|o a VE|o a GHE|o a DE|o a IE|o
a ZHE|o a ZE|o a I|o a gq I|o a KA|o a EL|o a EM|o a EN|o a O|o a PE|o a ER|o a ES|o a TE|o a U|o
a EF|o a HA|o a TSE|o a CHE|o a SHA|o a SHCHA|o a HARD u|o a YERU|o a SOFT u|o a E|o a YU|o a YA#
439|o k g gq I# 451|o k g IO||o k g GJE||||o k g YI|||||o k g KJE||o k g gq U#
490|o a GHE c UPTURN#
5D0|ar g hv|ar g BET|ar g GIMEL|ar g DALET|ar g HE|ar g VAV|ar g ZAYIN|ar g HET|ar g TET|ar g YOD|
ar g gr KAF|ar g KAF|ar g LAMED|ar g gr MEM|ar g MEM|ar g gr NUN|ar g NUN|ar g SAMEKH|ar g AYIN|ar
g gr PE|ar g PE|ar g gr TSADI|ar g TSADI|ar g QOF|ar g RESH|ar g SHIN|ar g TAV#
621|ad g hw|ad g hv c MADDA be|ad g hv c hw be|ad g WAW c hw be|ad g hv c hw ap|ad g YEH c hw be|
ad g hv|ad g BEH|ad g TEH MARBUTA|ad g TEH|ad g THEH|ad g JEEM|ad g HAH|ad g KHAH|ad g DAL|ad g
THAL|ad g REH|ad g ZAIN|ad g SEEN|ad g SHEEN|ad g SAD|ad g DAD|ad g TAH|ad g ZAH|ad g AIN|ad g
GHAIN|ad g KEHEH c fz mj be|ad g KEHEH c bw mj ap|ad g hd c bx V|ad g hd c fz mj be|ad g hd c bw
mj be|ad TATWEEL|ad g FEH|ad g QAF|ad g KAF|ad g LAM|ad g MEEM|ad g NOON|ad g HEH|ad g WAW|ad g hv
MAKSURA|ad g YEH# 1EAC|h a A c bg x fx ap|h k g A c bg x fx ap#
1EB6|h a A c gp x fx ap|h k g A c gp x fx ap# 1EC6|h a E c bg x fx ap|h k g E c bg x fx ap#
1ED8|h a O c bg x fx ap|h k g O c bg x fx ap#
2000|EN QUAD|EM QUAD|EN cn|EM cn|THREE-PER-EM cn|FOUR-PER-EM cn|SIX-PER-EM cn|FIGURE cn|
PUNCTUATION cn|THIN cn|HAIR cn|ec cn|ec NON-JOINER|ec JOINER|ek bo|el bo|ga|NON-BREAKING ga|FIGURE
ed|EN ed|EM ed|s jw|q r ej|q LOW ej|w av ai|l av ai|av LOW-9 ai|av hn ai|w q ai|l q ai|q LOW-9 ai|
q hn ai|DAGGER|q DAGGER|ee|gc ee|di fx LEADER|fz fx LEADER|s hx|HYPHENATION POINT|ej he|PARAGRAPH
he|ek ls|el ls|POP DIRECTIONAL FORMATTING|ek mk|el mk|NARROW hr cn|PER MILLE u|PER TEN hy u|gs|q
gs|dk gs|bd gs|bd q gs|bd dk gs|CARET|av ak cb ai|av ag cb ai|REFERENCE bo|q ax|INTERROBANG|ht|
UNDERTIE|CHARACTER TIE|CARET INSERTION POINT|ASTERISM|ga ee|ml SLASH|w al au c QUILL|l al au c
QUILL|q df bo# 2060|WORD JOINER|FUNCTION APPLICATION|hf TIMES|hf he|hf fy#
2070|aj lz|aj h k g I|||aj ds|aj dv|aj lp|aj dw|aj eq|aj iv|aj fy u|aj dh|aj dx u|aj w cf|aj l cf|
aj h k g N|as lz|as di|as fz|as bw|as ds|as dv|as lp|as dw|as eq|as iv|as fy u|as dh|as dx u|as w
cf|as l cf#
20A0|EURO-CURRENCY u|jv u|CRUZEIRO u|FRENCH FRANC u|LIRA u|MILL u|NAIRA u|PESETA u|RUPEE u|WON u|
NEW SHEQEL u|DONG u|EURO u|KIP u|TUGRIK u|DRACHMA u|GERMAN PENNY u|PESO u|GUARANI u|AUSTRAL u|
HRYVNIA u|CEDI u|LIVRE TOURNOIS u|SPESMILO u|TENGE u|INDIAN RUPEE u|TURKISH LIRA u|NORDIC bo u|
MANAT u|RUBLE u|LARI u|BITCOIN u#
2100|ACCOUNT OF|ADDRESSED TO THE SUBJECT|bf ah C|kp CELSIUS|hz ej j|CARE OF|CADA UNA|EULER
CONSTANT|SCRUPLE|kp FAHRENHEIT|cd k G|cd ah H|cv ah H|bf ah H|ho|ho iy fz PI|cd ah I|cv ah I|cd ah
L|cd k L|L B jw j|bf ah N|NUMERO u|es RECORDING lq|cd ah P|bf ah P|bf ah Q|cd ah R|cv ah R|bf ah
R|PRESCRIPTION TAKE|RESPONSE|SERVICE bo|dl u|TRADE bo u|VERSICLE|bf ah Z|OUNCE u|OHM u|bx OHM u|cv
ah Z|ev m k g hb|KELVIN u|ANGSTROM u|cd ah B|cv ah C|ESTIMATED j|cd k E|cd ah E|cd ah F|ev ah F|cd
ah M|cd k O|hv j|BET j|GIMEL j|DALET j|jx SOURCE|ROTATED ah Q#
2150|z di SEVENTH|z di NINTH|z di TENTH|z di THIRD|z fz THIRDS|z di FIFTH|z fz kt|z bw kt|z ds kt|
z di SIXTH|z dv SIXTHS|z di ku|z bw iz|z dv iz|z dw iz|ml NUMERATOR di|n di|n fz|n bw|n ds|n dv|n
lp|n dw|n eq|n iv|n TEN|n ia|n ib|n FIFTY|n di ex|n dv ex|n di hy|k n di|k n fz|k n bw|k n ds|k n
dv|k n lp|k n dw|k n eq|k n iv|k n TEN|k n ia|k n ib|k n FIFTY|k n di ex|k n dv ex|k n di hy#
2190|aw ab|ch ab|ae ab|bj ab|w l ab|UP aq ab|NORTH WEST ab|NORTH EAST ab|kv ab|SOUTH WEST ab|aw ab
c bc|ae ab c bc|aw ja ab|ae ja ab|aw ef ab|ch ef ab|ae ef ab|bj ef ab|aw ab c me|ae ab c me|aw ab
fg|ch ab fg|ae ab fg|bj ab fg|UP aq ab c BASE|aw ab c co|ae ab c co|aw ab c md|ae ab c md|w l ja
ab|w l ab c bc|bj ZIGZAG ab# 21BA|em dd am ab|dc dd am ab#
21D0|aw q ab|ch q ab|ae q ab|bj q ab|w l q ab|UP aq q ab#
2200|gd ALL|COMPLEMENT|PARTIAL DIFFERENTIAL|THERE EXISTS|THERE DOES fe EXIST|EMPTY SET|INCREMENT|
NABLA|ge|fe AN ge|k ge|gf|DOES fe CONTAIN AS MEMBER|k gf|END OF PROOF|fh PRODUCT|fh COPRODUCT|fh
SUMMATION|dh u|MINUS-OR-PLUS u|fx fy|ff SLASH|SET dh|bv bp|gb bp|ee bp|al ROOT|CUBE ROOT|FOURTH
ROOT|PROPORTIONAL TO|INFINITY|l cb|cb|MEASURED cb|SPHERICAL cb|DIVIDES|DOES fe DIVIDE|jy|fe jy|gt
x|gt OR|jb|UNION|ce|q ce|dk ce|jc ce|SURFACE ce|VOLUME ce|dc ce|dc jc ce|em jc ce|THEREFORE|
BECAUSE|RATIO|kw|fx dh|EXCESS|GEOMETRIC kw|HOMOTHETIC|dg bp|bd dg|bx LAZY S|SINE ja|WREATH
PRODUCT|fe dg|dh dg|ic af|fe ic af|cl af|cl BUT fe ACTUALLY af|jd cl NOR ACTUALLY af|kx af|fe kx
af|kx EQUAL OR af|dk dg|ALL af|en|it en|DIFFERENCE BETWEEN|APPROACHES THE LIMIT|it af|cl af OR THE
IMAGE OF|IMAGE OF OR cl af|jv dx|dx jv|gb IN af|gb af|CORRESPONDS TO|ESTIMATES|EQUIANGULAR TO|dm
dx|mc af|af BY DEFINITION|MEASURED BY|QUESTIONED af|fe af|je|fe je|STRICTLY en|dj OR af|cs OR af|
dj iy af|cs iy af|dj BUT fe af|cs BUT fe af|MUCH dj|MUCH cs#
2282|dn|cy|fe A dn|fe A cy|dn OR af|cy OR af|jd A dn NOR af|jd A cy NOR af|dn c fe af|cy c fe af#
2295|ci fy|ci dh|ci TIMES|ci ff SLASH|ci fx bp|ci gb bp|ci bv bp|ci dx|ci ed|ey fy|ey dh|ey TIMES|
ey fx bp|l hc|w hc|aq hc|UP hc# 22C0|fh gt x|fh gt OR|fh jb|fh UNION|bq bp|fx bp|dm bp#
22EE|r hx|MIDLINE s hx# 2300|DIAMETER u|fi ab|HOUSE# 2308|w CEILING|l CEILING|w FLOOR|l FLOOR#
2318|PLACE OF INTEREST u||WATCH|lt# 2328|KEYBOARD|ak cb au|ag cb au|ERASE TO THE w#
23CE|RETURN j|EJECT j#
23E9|v ag q aa|v ak q aa|v bk q aa|v ba q aa|v ag q aa c r jw|v ak q aa c r jw|v ag aa c q r jw|
ALARM cw|STOPWATCH|TIMER cw|lt c FLOWING SAND|v do ak aa|v do ag aa|v do bk aa|v do ba aa|q r jw|v
al gd kn|v am gd RECORD#
2469|an TEN|an ia|an ib|an THIRTEEN|an FOURTEEN|an FIFTEEN|an SIXTEEN|an SEVENTEEN|an EIGHTEEN|an
NINETEEN|an TWENTY#
2500|b t s|b p s|b t r|b p r|b t dk ed s|b p dk ed s|b t dk ed r|b p dk ed r|b t cz s|b p cz s|b t
cz r|b p cz r|b t aq x l|b aq t x l p|b aq p x l t|b p aq x l|b t aq x w|b aq t x w p|b aq p x w
t|b p aq x w|b t UP x l|b UP t x l p|b UP p x l t|b p UP x l|b t UP x w|b UP t x w p|b UP p x w t|
b p UP x w|b t r x l|b r t x l p|b UP p x l aq t|b aq p x l UP t|b r p x l t|b aq t x l UP p|b UP
t x l aq p|b p r x l|b t r x w|b r t x w p|b UP p x w aq t|b aq p x w UP t|b r p x w t|b aq t x w
UP p|b UP t x w aq p|b p r x w|b t aq x s|b w p x l aq t|b l p x w aq t|b aq t x s p|b aq p x s t|
b l t x w aq p|b w t x l aq p|b p aq x s|b t UP x s|b w p x l UP t|b l p x w UP t|b UP t x s p|b
UP p x s t|b l t x w UP p|b w t x l UP p|b p UP x s|b t r x s|b w p x l r t|b l p x w r t|b r t x
s p|b UP p x aq s t|b aq p x UP s t|b r p x s t|b w UP p x l aq t|b l UP p x w aq t|b w aq p x l
UP t|b l aq p x w UP t|b aq t x UP s p|b UP t x aq s p|b l t x w r p|b w t x l r p|b p r x s|b t q
ed s|b p q ed s|b t q ed r|b p q ed r|b q s|b q r|b aq av x l q|b aq q x l av|b q aq x l|b aq av x
w q|b aq q x w av|b q aq x w|b UP av x l q|b UP q x l av|b q UP x l|b UP av x w q|b UP q x w av|b
q UP x w|b r av x l q|b r q x l av|b q r x l|b r av x w q|b r q x w av|b q r x w|b aq av x s q|b
aq q x s av|b q aq x s|b UP av x s q|b UP q x s av|b q UP x s|b r av x s q|b r q x s av|b q r x s|
b t ARC aq x l|b t ARC aq x w|b t ARC UP x w|b t ARC UP x l|b t eg cp l TO az w|b t eg cp w TO az
l|b t eg cj|b t w|b t UP|b t l|b t aq|b p w|b p UP|b p l|b p aq|b t w x p l|b t UP x p aq|b p w x
t l|b p UP x t aq|cp dz eh|az cq|az di go eh|az bw bu|az dz eh|az dv bu|az bw hs eh|az dw bu|km
eh|w dw bu|w bw hs eh|w dv bu|w dz eh|w bw bu|w di go eh|w cq|l dz eh|t SHADE|do SHADE|DARK SHADE|
cp cq|l cq|fj az w|fj az l|ay w|ay w x az w x az l|ay w x az l|ay w x cp l x az w|ay w x cp l x az
l|ay l|ay l x az w|ay l x az w x az l|v al|y al|y al c ROUNDED CORNERS|y al ky v k al|al c s kz|al
c r kz|al c ORTHOGONAL hp|al c cp w TO az l kz|al c cp l TO az w kz|al c eg hp|v k al|y k al|v et|
y et|v r et|y r et|v iu|y iu|v bk aa|y bk aa|v bk k aa|y bk k aa|v ag aa|y ag aa|v ag k aa|y ag k
aa|v ag gu|y ag gu|v ba aa|y ba aa|v ba k aa|y ba k aa|v ak aa|y ak aa|v ak k aa|y ak k aa|v ak
gu|y ak gu|v bq|y bq|y bq ky v k bq|FISHEYE|LOZENGE|y am|hu am|am c r kz|BULLSEYE|v am|am c w dz
v|am c l dz v|am c az dz v|am c cp dz v|am c cp l fj v|am c ALL BUT cp w fj v|w dz v am|l dz v am#
25E2|v az l aa|v az w aa|v cp w aa|v cp l aa|y ee# 25EF|br am#
2600|v SUN c RAYS|CLOUD|id|SNOWMAN|COMET|v dm|y dm|LIGHTNING|THUNDERSTORM|SUN|ASCENDING NODE|
DESCENDING NODE|CONJUNCTION|OPPOSITION|v dl|y dl|gg BOX|gg BOX c jz|gg BOX c X|SALTIRE|id c RAIN
DROPS|HOT BEVERAGE|y ka|v ka|SHAMROCK|bd ROTATED FLORAL bt ee|v w bs|v l bs|y w bs|y UP bs|y l bs|
y aq bs|SKULL x CROSSBONES|CAUTION u|RADIOACTIVE u|BIOHAZARD u|CADUCEUS|ANKH|ORTHODOX cj|CHI RHO|
cj OF LORRAINE|cj OF JERUSALEM|dm x CRESCENT|FARSI j|ADI SHAKTI|la x SICKLE|PEACE j|YIN YANG|bl
HEAVEN|bl LAKE|bl FIRE|bl THUNDER|bl WIND|bl fk|bl fl|bl EARTH|WHEEL OF DHARMA|y fm i|y ao i|v ao
i|y SUN c RAYS|kb bz|LAST bz|MERCURY|FEMALE u|EARTH|MALE u|JUPITER|SATURN|URANUS|NEPTUNE|PLUTO|
ARIES|TAURUS|GEMINI|CANCER|LEO|VIRGO|LIBRA|SCORPIUS|SAGITTARIUS|CAPRICORN|AQUARIUS|PISCES|y de
KING|y de QUEEN|y de ROOK|y de BISHOP|y de KNIGHT|y de PAWN|v de KING|v de QUEEN|v de ROOK|v de
BISHOP|v de KNIGHT|v de PAWN|v SPADE hg|y bt hg|y bq hg|v CLUB hg|y SPADE hg|v bt hg|v bq hg|y
CLUB hg|HOT SPRINGS|go NOTE|ku NOTE|BEAMED ku NOTES|BEAMED SIXTEENTH NOTES|MUSIC FLAT u|MUSIC
NATURAL u|MUSIC SHARP u|WEST SYRIAC cj|EAST SYRIAC cj|lu bm j|bm j gd TYPE-1 da|bm j gd TYPE-2 da|
bm j gd TYPE-3 da|bm j gd TYPE-4 da|bm j gd TYPE-5 da|bm j gd TYPE-6 da|bm j gd TYPE-7 da|bm j gd
GENERIC MATERIALS|v lu bm j|RECYCLED kc j|PARTIALLY-RECYCLED kc j|PERMANENT kc u|WHEELCHAIR j#
2690|y fn|v fn|la x PICK|ANCHOR|jf SWORDS|STAFF OF AESCULAPIUS|SCALES|ALEMBIC|ie|GEAR|STAFF OF
HERMES|ATOM j|FLEUR-DE-LIS|if y dm|bw hh l|bw hh w|WARNING u|HIGH VOLTAGE u# 26AA|do y am|do v am#
26BD|SOCCER ig|BASEBALL# 26C4|SNOWMAN jg SNOW|SUN BEHIND CLOUD# 26D4|NO ENTRY# 26EA|CHURCH#
26F2|FOUNTAIN|fn IN HOLE|FERRY|SAILBOAT|||||TENT|cr BANK j|HEADSTONE GRAVEYARD j|FUEL PUMP||||cp
BLADE fo|v fo|az BLADE fo|y fo|y p jz bo|dl LOCATION u|TAPE DRIVE|AIRPLANE|fp|ez FIST|ez dt|
VICTORY dt|WRITING dt|az l lb|lb|cp l lb|y NIB|v NIB|jz bo|p jz bo|ea X|p ea X|gg X|p gg X|if m
cj|p m cj|dd hz cj|p dd hz cj|h cj|SHADOWED y h cj|if h cj|MALTESE cj|dm OF DAVID|ds
TEARDROP-SPOKED bv|ds ih bv|p ds ih bv|ds CLUB-SPOKED bv|v ds gv dm|y ds gv dm|SPARKLES#
2731|p bv|dd hz bv|eq SPOKED bv|eq gv v dm#
2744|hi|TIGHT TRIFOLIATE hi|p CHEVRON hi|SPARKLE|||||cj bo|SHADOWED y am|NEGATIVE ey cj bo|||||v
df bo fq|y df bo fq|y ax fq|v bq dh y X|p ax j# 2763|p bt ax fq|p v bt#
2795|p fy u|p dh u|p ff u|p kv ab||||p ROUND-TIPPED ae ab|cx ae ab|p cx ae ab|DASHED cx ae ab|p
DASHED cx ae ab|v ae ab|THREE-D TOP-LIGHTED ae hj|THREE-D BOTTOM-LIGHTED ae hj|v ae hj#
27B0|ma md# 27E8|jh w cb au|jh l cb au# 2B05|aw v ab|ch v ab|bj v ab# 2B1B|v br al|y br al#
2B50|y do dm|||||p br am#
3000|ck cn|ck fd|ck km kn|DITTO bo|cr INDUSTRIAL STANDARD j|ck eu bo|ck CLOSING bo|ck NUMBER lz|w
cb au|l cb au|w q cb au|l q cb au|w ii au|l ii au|w y ii au|l y ii au|w v lc au|l v lc au#
3041|d g k A|d g A|d g k I|d g I|d g k U|d g U|d g k E|d g E|d g k O|d g O|d g KA|d g GA|d g KI|d
g GI|d g KU|d g GU|d g KE|d g GE|d g KO|d g GO|d g SA|d g ZA|d g SI|d g ZI|d g SU|d g ZU|d g SE|d
g ZE|d g SO|d g ZO|d g TA|d g DA|d g TI|d g DI|d g k TU|d g TU|d g DU|d g TE|d g DE|d g TO|d g DO|
d g NA|d g NI|d g NU|d g NE|d g NO|d g HA|d g BA|d g PA|d g HI|d g BI|d g PI|d g HU|d g BU|d g PU|
d g HE|d g BE|d g PE|d g HO|d g BO|d g PO|d g MA|d g MI|d g MU|d g ME|d g MO|d g k YA|d g YA|d g k
YU|d g YU|d g k YO|d g YO|d g RA|d g RI|d g RU|d g RE|d g RO|d g k WA|d g WA|d g WI|d g WE|d g WO|
d g N|d g VU|d g k KA|d g k KE|||f bb ij es bo|f bb kd es bo|bb ij es bo|bb kd es bo|d eu bo|d ij
eu bo|d DIGRAPH YORI|bb q ga#
30AC|ac g GA||ac g GI||ac g GU||ac g GE||ac g GO||ac g ZA||ac g ZI||ac g ZU||ac g ZE||ac g ZO||ac
g DA||ac g DI|||ac g DU||ac g DE||ac g DO#
30D0|ac g BA|ac g PA||ac g BI|ac g PI||ac g BU|ac g PU||ac g BE|ac g PE||ac g BO|ac g PO#
30F4|ac g VU|||ac g VA|ac g VI|ac g VE|ac g VO|ac dy|bb PROLONGED es bo||ac ij eu bo|ac DIGRAPH
KOTO# FB00|h k cc FF|h k cc FI|h k cc FL|h k cc FFI|h k cc FFL|h k cc kq S T|h k cc ST#
FE0F|VARIATION SELECTOR-16# FEFF|ec hr cn# FFFC|OBJECT fc|fc#
1F1E6|e g A|e g B|e g C|e g D|e g E|e g F|e g G|e g H|e g I|e g J|e g K|e g L|e g M|e g N|e g O|e
g P|e g Q|e g R|e g S|e g T|e g U|e g V|e g W|e g X|e g Y|e g Z#
1F300|CYCLONE|FOGGY|dp id|NIGHT c STARS|SUNRISE iy MOUNTAINS|SUNRISE|CITYSCAPE AT DUSK|SUNSET iy
BUILDINGS|RAINBOW|ks AT NIGHT|fk ja|VOLCANO|MILKY WAY|fr EUROPE-AFRICA|fr AMERICAS|fr
ASIA-AUSTRALIA|GLOBE c MERIDIANS|NEW hk j|WAXING eo j|kb bz j|WAXING GIBBOUS hk j|km hk j|WANING
GIBBOUS hk j|LAST bz j|WANING eo j|eo|NEW hk c i|kb bz c i|LAST bz c i|km hk c i|SUN c i|GLOWING
dm|SHOOTING dm#
1F32D|HOT DOG|TACO|BURRITO|CHESTNUT|SEEDLING|EVERGREEN ld|DECIDUOUS ld|PALM ld|CACTUS|HOT PEPPER|
TULIP|CHERRY BLOSSOM|ROSE|HIBISCUS|SUNFLOWER|BLOSSOM|EAR OF MAIZE|EAR OF le|HERB|ds LEAF CLOVER|
MAPLE LEAF|FALLEN LEAF|LEAF FLUTTERING IN WIND|MUSHROOM|TOMATO|AUBERGINE|GRAPES|MELON|WATERMELON|
TANGERINE|LEMON|BANANA|PINEAPPLE|lv APPLE|fs APPLE|PEAR|PEACH|CHERRIES|STRAWBERRY|HAMBURGER|SLICE
OF PIZZA|MEAT ON BONE|POULTRY LEG|le CRACKER|le ig|COOKED le|CURRY x le|STEAMING BOWL|SPAGHETTI|
BREAD|FRENCH FRIES|ROASTED SWEET POTATO|DANGO|ODEN|SUSHI|FRIED SHRIMP|FISH CAKE c SWIRL DESIGN|
SOFT lw|SHAVED ICE|lw|DOUGHNUT|COOKIE|CHOCOLATE jw|CANDY|LOLLIPOP|CUSTARD|HONEY POT|SHORTCAKE|
BENTO BOX|POT OF FOOD|COOKING|FORK x KNIFE|TEACUP jg HANDLE|SAKE ik x CUP|WINE gw|COCKTAIL gw|
TROPICAL DRINK|BEER MUG|CLINKING BEER MUGS|ji ik|FORK x KNIFE c PLATE|ik c POPPING CORK|POPCORN|
RIBBON|WRAPPED PRESENT|BIRTHDAY CAKE|JACK-O-LANTERN|hl ld|FATHER hl|FIREWORKS|FIREWORK SPARKLER|
jj|PARTY POPPER|CONFETTI ig|TANABATA ld|jf FLAGS|PINE lf|cr DOLLS|CARP STREAMER|WIND CHIME|hk
VIEWING CEREMONY|SCHOOL SATCHEL|GRADUATION CAP#
1F3A0|CAROUSEL ke|FERRIS WHEEL|ROLLER COASTER|FISHING POLE x FISH|MICROPHONE|MOVIE il|CINEMA|
HEADPHONE|ARTIST PALETTE|TOP HAT|CIRCUS TENT|TICKET|CLAPPER BOARD|PERFORMING ARTS|VIDEO GAME|
DIRECT HIT|SLOT jk|BILLIARDS|GAME DIE|BOWLING|ie PLAYING CARDS|gx NOTE|MULTIPLE gx NOTES|
SAXOPHONE|GUITAR|gx KEYBOARD|TRUMPET|VIOLIN|gx SCORE|RUNNING SHIRT c SASH|TENNIS RACQUET x ig|SKI
x SKI BOOT|BASKETBALL x HOOP|CHEQUERED fn|SNOWBOARDER|RUNNER|SURFER|SPORTS MEDAL|TROPHY|ke RACING|
AMERICAN FOOTBALL|RUGBY FOOTBALL|SWIMMER#
1F3E0|HOUSE BUILDING|HOUSE c GARDEN|OFFICE BUILDING|cr kf|EUROPEAN kf|HOSPITAL|BANK|AUTOMATED
TELLER jk|HOTEL|LOVE HOTEL|CONVENIENCE STORE|SCHOOL|DEPARTMENT STORE|FACTORY|IZAKAYA LANTERN|cr
CASTLE|EUROPEAN CASTLE||||WAVING v fn#
1F3FB|at TYPE-1-2|at TYPE-3|at TYPE-4|at TYPE-5|at TYPE-6|RAT|MOUSE|OX|fk BUFFALO|COW|TIGER|
LEOPARD|RABBIT|jl|DRAGON|CROCODILE|WHALE|SNAIL|SNAKE|ke|RAM|GOAT|SHEEP|gh|ROOSTER|CHICKEN|DOG|PIG|
BOAR|ELEPHANT|OCTOPUS|SPIRAL SHELL|BUG|ANT|HONEYBEE|LADY BEETLE|FISH|TROPICAL FISH|BLOWFISH|
TURTLE|HATCHING CHICK|ji CHICK|FRONT-FACING ji CHICK|BIRD|PENGUIN|KOALA|POODLE|DROMEDARY CAMEL|
BACTRIAN CAMEL|DOLPHIN|MOUSE i|COW i|TIGER i|RABBIT i|jl i|DRAGON i|SPOUTING WHALE|ke i|gh i|DOG
i|PIG i|FROG i|HAMSTER i|WOLF i|BEAR i|PANDA i|PIG NOSE|PAW PRINTS|CHIPMUNK|db|EYE|EAR|NOSE|ft|
TONGUE|y UP bn|y aq bn|y w bn|y l bn|FISTED dt u|WAVING dt u|OK dt u|THUMBS UP u|THUMBS aq u|
CLAPPING kg u|dd kg u|CROWN|im HAT|EYEGLASSES|NECKTIE|T-SHIRT|JEANS|DRESS|KIMONO|BIKINI|im
CLOTHES|PURSE|HANDBAG|POUCH|MANS SHOE|ATHLETIC SHOE|HIGH-HEELED SHOE|im SANDAL|im BOOTS|
FOOTPRINTS|BUST IN gi|BUSTS IN gi|BOY|GIRL|MAN|kh|FAMILY|MAN x kh ep|fz MEN ep|fz WOMEN ep|in
OFFICER|kh c BUNNY EARS|BRIDE c VEIL|bh c BLOND HAIR|MAN c GUA PI MAO|MAN c TURBAN|OLDER MAN|OLDER
kh|ji|jm WORKER|PRINCESS|cr OGRE|cr GOBLIN|GHOST|ji ANGEL|EXTRATERRESTRIAL ALIEN|ALIEN MONSTER|
IMP|SKULL|jx DESK bh|GUARDSMAN|DANCER|LIPSTICK|NAIL POLISH|i MASSAGE|HAIRCUT|BARBER POLE|SYRINGE|
PILL|KISS bo|LOVE g|gb|GEM STONE|KISS|BOUQUET|COUPLE c bt|WEDDING|BEATING bt|BROKEN bt|fz lg|
SPARKLING bt|GROWING bt|bt c ab|jn bt|fs bt|lh bt|li bt|bt c RIBBON|lx lg|bt lf|bq SHAPE c A fx
INSIDE|fi t BULB|ANGER j|BOMB|SLEEPING j|COLLISION j|SPLASHING SWEAT j|DROPLET|ed j|PILE OF POO|
FLEXED BICEPS|DIZZY j|SPEECH jj|THOUGHT jj|y ie|ex POINTS j|MONEY BAG|mb EXCHANGE|p kk u|CREDIT
CARD|fu c YEN u|fu c kk u|fu c EURO u|fu c POUND u|MONEY c WINGS|ki c ch TREND x YEN u|SEAT|
PERSONAL COMPUTER|BRIEFCASE|MINIDISC|FLOPPY DISK|OPTICAL DISC|DVD|kj|dd kj|PAGE c CURL|PAGE FACING
UP|CALENDAR|TEAR-OFF CALENDAR|CARD INDEX|ki c ch TREND|ki c bj TREND|jw ki|CLIPBOARD|PUSHPIN|ROUND
PUSHPIN|PAPERCLIP|STRAIGHT RULER|gc RULER|BOOKMARK TABS|LEDGER|NOTEBOOK|NOTEBOOK c DECORATIVE
COVER|dp lj|dd lj|fs lj|jn lj|fa lj|BOOKS|NAME BADGE|SCROLL|MEMO|dl RECEIVER|PAGER|FAX jk|
SATELLITE ANTENNA|PUBLIC ADDRESS LOUDSPEAKER|CHEERING MEGAPHONE|OUTBOX TRAY|INBOX TRAY|PACKAGE|
E-MAIL j|INCOMING fp|fp c bj ab be|dp gy c LOWERED fn|dp gy c ez fn|dd gy c ez fn|dd gy c LOWERED
fn|POSTBOX|POSTAL HORN|NEWSPAPER|fb|fb c ae ab AT w|VIBRATION MODE|fb OFF|NO MOBILE PHONES|ANTENNA
c BARS|il|il c FLASH|VIDEO il|TELEVISION|RADIO|VIDEOCASSETTE||||TWISTED ae gj|dc ae x aw dd am gj|
dc ae x aw dd am gj c ci di du|dc bj x ch dd am gj|em bj x ch dd am gj|LOW lk j|HIGH lk j|gz c jo
bc|gz|gz c di es ja|gz c bw es WAVES|BATTERY|fi PLUG|ak ll gw|ag ll gw|LOCK c INK PEN|dp LOCK c
KEY|KEY|LOCK|dd LOCK|BELL|BELL c jo bc|BOOKMARK|LINK j|RADIO lm|BACK c aw ab be|END c aw ab be|ON
c ax c w l ab be|SOON c ae ab be|TOP c ch ab be|NO di UNDER EIGHTEEN j|KEYCAP TEN|io j gd h ah jp|
io j gd h k jp|io j gd NUMBERS|io j gd SYMBOLS|io j gd h jp|FIRE|fi TORCH|WRENCH|la|NUT x BOLT|
HOCHO|PISTOL|MICROSCOPE|TELESCOPE|CRYSTAL ig|lp gv dm c dy|cr j gd BEGINNER|TRIDENT EMBLEM|v al
lm|y al lm|br lv am|br jn am|br fa bq|br jn bq|k fa bq|k jn bq|bk lv aa|ba lv aa|bk k lv aa|ba k
lv aa#
1F550|cw i di cm|cw i fz cm|cw i bw cm|cw i ds cm|cw i dv cm|cw i lp cm|cw i dw cm|cw i eq cm|cw i
iv cm|cw i TEN cm|cw i ia cm|cw i ib cm#
1F5FA|WORLD MAP|MOUNT FUJI|TOKYO TOWER|STATUE OF LIBERTY|gi OF JAPAN|MOYAI|ei i|ei i c ao db|i c
jq|ao i c bi|ao i c bi x ao db|ao i c bi x gk|ao i c bi x ip db|ao i c HALO|ao i c HORNS|WINKING
i|ao i c ao db|i SAVOURING DELICIOUS FOOD|RELIEVED i|ao i c jr db|ao i c SUNGLASSES|SMIRKING i|
NEUTRAL i|EXPRESSIONLESS i|UNAMUSED i|i c gk|PENSIVE i|CONFUSED i|CONFOUNDED i|ha i|i THROWING A
KISS|ha i c ao db|ha i c dp db|i c dq|i c dq x WINKING EYE|i c dq x ip db|js i|WORRIED i|ANGRY i|
jt i|ln i|PERSEVERING i|i c LOOK OF TRIUMPH|js BUT RELIEVED i|fm i c bi|ANGUISHED i|FEARFUL i|
WEARY i|SLEEPY i|TIRED i|GRIMACING i|LOUDLY ln i|i c bi|HUSHED i|i c bi x gk|i SCREAMING IN FEAR|
ASTONISHED i|FLUSHED i|SLEEPING i|DIZZY i|i jg ft|i c MEDICAL MASK|ei jl i c ao db|jl i c jq|ao jl
i c bi|ao jl i c jr db|jl i c WRY SMILE|ha jl i c dp db|jt jl i|ln jl i|WEARY jl i|SLIGHTLY fm i|
SLIGHTLY ao i|UPSIDE-DOWN i|i c ROLLING db|i c NO GOOD GESTURE|i c OK GESTURE|bh BOWING DEEPLY|
SEE-NO-EVIL gh|HEAR-NO-EVIL gh|SPEAK-NO-EVIL gh|HAPPY bh RAISING di dt|bh RAISING BOTH kg IN
CELEBRATION|bh fm|bh c jt i|bh c FOLDED kg#
1F680|ROCKET|HELICOPTER|STEAM LOCOMOTIVE|ju CAR|hm|hm c ee NOSE|TRAIN|METRO|t RAIL|STATION|TRAM|
TRAM CAR|BUS|fv BUS|TROLLEYBUS|BUS kn|MINIBUS|AMBULANCE|FIRE ENGINE|in CAR|fv in CAR|TAXI|fv TAXI|
lo|fv lo|RECREATIONAL VEHICLE|DELIVERY TRUCK|ARTICULATED LORRY|TRACTOR|MONORAIL|fl ju|SUSPENSION
ju|fl CABLEWAY|AERIAL TRAMWAY|SHIP|ROWBOAT|SPEEDBOAT|s TRAFFIC t|r TRAFFIC t|jm u|in CARS lx t|gc
fn ON POST|DOOR|NO ENTRY u|SMOKING j|NO SMOKING j|PUT LITTER IN ITS PLACE j|DO fe LITTER j|POTABLE
fk j|NON-POTABLE fk j|BICYCLE|NO BICYCLES|ly|fl ly|PEDESTRIAN|NO PEDESTRIANS|CHILDREN CROSSING|
MENS j|WOMENS j|RESTROOM|ji j|TOILET|fk CLOSET|SHOWER|BATH|BATHTUB|PASSPORT CONTROL|CUSTOMS|
BAGGAGE CLAIM|w LUGGAGE# 1F6D2|SHOPPING TROLLEY#
1F7E0|br fa am|br lh am|br fs am|br li am|br BROWN am|br lv al|br jn al|br fa al|br lh al|br fs
al|br li al|br BROWN al#
1F90C|PINCHED FINGERS|y bt|BROWN bt|PINCHING dt|ZIPPER-MOUTH i|MONEY-MOUTH i|i c THERMOMETER|NERD
i|THINKING i|i c HEAD-BANDAGE|ROBOT i|HUGGING i|u OF THE HORNS|CALL ME dt|ez BACK OF dt|
LEFT-FACING FIST|RIGHT-FACING FIST|HANDSHAKE|dt c INDEX x MIDDLE FINGERS jf|I LOVE YOU dt u|i c
COWBOY HAT|CLOWN i|NAUSEATED i|ROLLING ON THE FLOOR LAUGHING|DROOLING i|LYING i|i PALM|SNEEZING i|
i c di EYEBROW ez|ei i c dm db|ei i c di br x di k EYE|i c FINGER iq dp LIPS|SERIOUS i c SYMBOLS
iq ft|ao i c ao db x dt iq ft|i c bi VOMITING|SHOCKED i c EXPLODING HEAD|||PALMS UP TOGETHER|
SELFIE|PRINCE|MAN IN TUXEDO|MOTHER hl|SHRUG|bh DOING CARTWHEEL|JUGGLING|FENCER|MODERN PENTATHLON|
WRESTLERS|fk POLO|HANDBALL||WILTED ie|DRUM c DRUMSTICKS|CLINKING GLASSES|TUMBLER gw|SPOON|GOAL
NET||kb fw|SECOND fw|THIRD fw|BOXING GLOVE|MARTIAL ARTS UNIFORM|CURLING STONE|LACROSSE STICK x ig|
SOFTBALL|FLYING DISC|CROISSANT|AVOCADO|CUCUMBER|BACON|POTATO|CARROT|BAGUETTE BREAD|fs SALAD|
SHALLOW PAN OF FOOD|STUFFED FLATBREAD|EGG|gw OF MILK|PEANUTS|KIWIFRUIT|PANCAKES|DUMPLING|FORTUNE
COOKIE|TAKEOUT BOX|CHOPSTICKS|BOWL c SPOON|CUP c STRAW|COCONUT|BROCCOLI|PIE|PRETZEL|CUT OF MEAT|
SANDWICH|CANNED FOOD|LEAFY fs|MANGO|hk CAKE|BAGEL|ao i c ao db x bw lg|YAWNING i|ao i c TEAR|i c
PARTY HORN x PARTY HAT|i c UNEVEN db x WAVY ft|OVERHEATED i|FREEZING i||||i c PLEADING db|SARI|LAB
COAT|GOGGLES|HIKING BOOT|FLAT SHOE|CRAB|LION i|SCORPION|TURKEY|UNICORN i|EAGLE|DUCK|BAT|SHARK|OWL|
FOX i|BUTTERFLY|DEER|GORILLA|LIZARD|RHINOCEROS|SHRIMP|SQUID|GIRAFFE i|ZEBRA i|HEDGEHOG|SAUROPOD|
T-REX|CRICKET|KANGAROO|LLAMA|PEACOCK|HIPPOPOTAMUS|PARROT|RACCOON|LOBSTER|MOSQUITO|MICROBE|BADGER|
SWAN|MAMMOTH|DODO|SLOTH|OTTER|ORANGUTAN|SKUNK|FLAMINGO|OYSTER|BEAVER|BISON|SEAL|GUIDE DOG#
1F9C0|CHEESE WEDGE|CUPCAKE|SALT SHAKER|BEVERAGE BOX|GARLIC|ONION|FALAFEL|WAFFLE|BUTTER|MATE DRINK|
ICE CUBE|BUBBLE TEA|TROLL|STANDING bh|KNEELING bh|DEAF bh|i c MONOCLE|ADULT|CHILD|OLDER ADULT|
BEARDED bh|bh c HEADSCARF|bh IN STEAMY ROOM|bh CLIMBING|bh IN LOTUS POSITION|MAGE|FAIRY|VAMPIRE|
MERPERSON|ELF|GENIE|ZOMBIE|BRAIN|fa bt|BILLED CAP|SCARF|GLOVES|COAT|SOCKS|lv GIFT fp|FIRECRACKER|
JIGSAW PUZZLE PIECE|TEST TUBE|PETRI DISH|DNA q HELIX|COMPASS|ABACUS|FIRE EXTINGUISHER|TOOLBOX|
BRICK|MAGNET|LUGGAGE|LOTION ik|SPOOL OF THREAD|ig OF YARN|SAFETY PIN|TEDDY BEAR|BROOM|BASKET|ROLL
OF kc|jw OF SOAP|SPONGE|RECEIPT|NAZAR AMULET#
1FA70|BALLET SHOES|ONE-PIECE SWIMSUIT|BRIEFS|SHORTS|THONG SANDAL#
1FAE0|MELTING i|SALUTING i|i c dd db x dt iy ft|i c PEEKING EYE|i c eg ft|hu ej i|BITING LIP|
BUBBLES"

/-- Characters without a name of their own that have one for people. -/
def controlNames : List (String × Nat) :=
  [("NULL", 0), ("BELL", 0x1F514), ("ALERT", 7), ("BACKSPACE", 8), ("CHARACTER TABULATION", 9),
   ("TAB", 9), ("LINE FEED", 10), ("NEW LINE", 10), ("LINE TABULATION", 11), ("FORM FEED", 12),
   ("CARRIAGE RETURN", 13), ("ESCAPE", 27), ("DELETE", 127), ("NBSP", 0xA0),
   ("NEXT LINE", 0x85), ("ZERO WIDTH SPACE", 0x200B), ("ZERO WIDTH NON-JOINER", 0x200C),
   ("ZERO WIDTH JOINER", 0x200D), ("LEFT-TO-RIGHT MARK", 0x200E),
   ("RIGHT-TO-LEFT MARK", 0x200F), ("LINE SEPARATOR", 0x2028), ("PARAGRAPH SEPARATOR", 0x2029),
   ("EN SPACE", 0x2002), ("EM SPACE", 0x2003), ("THIN SPACE", 0x2009), ("HAIR SPACE", 0x200A),
   ("IDEOGRAPHIC SPACE", 0x3000), ("ZERO WIDTH NO-BREAK SPACE", 0xFEFF),
   ("BYTE ORDER MARK", 0xFEFF)]

/-- The phrases that the short words in the table stand for. -/
def namePhrases : Thunk (Std.HashMap String String) :=
  .mk fun _ => (nameWords.splitOn ";").foldl (fun m entry =>
    match entry.splitOn "=" with
    | [short, phrase] =>
      let words := (phrase.split Char.isWhitespace).toStringList
      m.insert short.trimAscii.toString (" ".intercalate (words.filter (· ≠ "")))
    | _ => m) ∅

/-- The words of a line of names, of which the short ones are written out. -/
def fullName (s : String) : String :=
  " ".intercalate (((s.split Char.isWhitespace).toStringList.filter (· ≠ "")).map fun w =>
    (namePhrases.get.get? w).getD w)

def namedCharacters : Thunk (Std.HashMap Nat String) :=
  .mk fun _ => (nameBlocks.splitOn "#").foldl (fun m block =>
    match block.splitOn "|" with
    | start :: names =>
      let first := (naturalIn? 16 (start.toList.filter Char.isAlphanum)).getD 0
      (names.foldl (fun ((i, m) : Nat × Std.HashMap Nat String) s =>
        (i + 1, if s.any Char.isAlphanum then m.insert i s else m)) (first, m)).2
    | [] => m) ∅

/-- What a mark adds to the name of a letter. -/
def markWords? (name : String) : Option String :=
  if !name.startsWith "COMBINING " then none
  else
    match ((name.splitOn " ").drop 1).filter (· ≠ "ACCENT") with
    | ["MACRON", "BELOW"] => some "LINE BELOW"
    | words => some (" ".intercalate words)

def markedName (letter mark : String) : String :=
  letter ++ (if (letter.splitOn " WITH ").length > 1 then " AND " else " WITH ") ++ mark

def replaceWord? (old new name : String) : Option String :=
  let words := name.splitOn " "
  if words.contains old then
    some (" ".intercalate (words.map fun w => if w == old then new else w))
  else none

/-- The name of a character: that of the table, or else one that tells of what the character is
made, of which letter it is the small form, or of which letter it is the form in the other kana. -/
def composedName? : Nat → Char → Option String
  | 0, _ => none
  | fuel + 1, c =>
    let ofParts := (parts? c).bind fun p =>
      match p.likeness, p.characters with
      | none, [letter, mark] => do
        return markedName (← composedName? fuel letter)
          (← (composedName? fuel mark).bind markWords?)
      | some "wide", [d] => (composedName? fuel d).map ("FULLWIDTH " ++ ·)
      | some "circle", [d] => (composedName? fuel d).map ("CIRCLED " ++ ·)
      | _, _ => none
    let ofCapital := match upperOf c with
      | [d] => if d == c then none
        else (composedName? fuel d).bind (replaceWord? "CAPITAL" "SMALL")
      | _ => none
    let n := codePoint c
    let ofKana := if 0x30A1 ≤ n && n ≤ 0x30FE && n ≠ 0x30FB && n ≠ 0x30FC then
        (composedName? fuel (Char.ofNat (n - 0x60))).bind (replaceWord? "HIRAGANA" "KATAKANA")
      else none
    ((namedCharacters.get.get? n).map fullName).or (ofParts.or (ofCapital.or ofKana))

def charactersByName : Thunk (Std.HashMap String Char) :=
  .mk fun _ =>
    let tabled := (namedCharacters.get.toList.map (Char.ofNat ·.1)).flatMap fun c =>
      c :: lowerOf c ++ [Char.ofNat (c.toNat + 0x60)]
    let composed := partsByCharacter.get.toList.map fun p => Char.ofNat p.1
    (composed ++ tabled).foldl (fun m c =>
      match composedName? 5 c with
      | some name => m.insertIfNew name c
      | none => m) ∅

/-- Digits of a number in capital letters. -/
def capitalHex (n : Nat) : String :=
  (String.ofList (Nat.toDigits 16 n)).toUpper

def isIdeograph (n : Nat) : Bool :=
  (0x4E00 ≤ n && n ≤ 0x9FFF) || (0x3400 ≤ n && n ≤ 0x4DBF) || (0x20000 ≤ n && n ≤ 0x2A6DF) ||
  (0x2A700 ≤ n && n ≤ 0x2B738) || (0x2B740 ≤ n && n ≤ 0x2B81D) || (0x2B820 ≤ n && n ≤ 0x2CEA1) ||
  (0x2CEB0 ≤ n && n ≤ 0x2EBE0) || (0x30000 ≤ n && n ≤ 0x3134A)

/-- The sounds of the letters of a syllable of Hangul: first, middle and last ones. -/
def syllableSounds : List String × List String × List String :=
  ("G,GG,N,D,DD,R,M,B,BB,S,SS,,J,JJ,C,K,T,P,H".splitOn ",",
   "A,AE,YA,YAE,EO,E,YEO,YE,O,WA,WAE,OE,YO,U,WEO,WE,WI,YU,EU,YI,I".splitOn ",",
   ",G,GG,GS,N,NJ,NH,D,L,LG,LM,LB,LS,LT,LP,LH,M,B,BS,S,SS,NG,J,C,K,T,P,H".splitOn ",")

/-- The sound of a syllable of Hangul by its place. -/
def syllableSound (n : Nat) : String :=
  let (first, middle, last) := syllableSounds
  first.getD (n / 588) "" ++ middle.getD (n % 588 / 28) "" ++ last.getD (n % 28) ""

/-- The dots of a pattern of Braille by its place. -/
def brailleDots (n : Nat) : String :=
  String.ofList ((List.range 8).filterMap fun i =>
    if n.testBit i then some (Char.ofNat ('1'.toNat + i)) else none)

def characterName? (c : Char) : Option String :=
  let n := codePoint c
  if isIdeograph n then some ("CJK UNIFIED IDEOGRAPH-" ++ capitalHex n)
  else if 0xAC00 ≤ n && n < 0xAC00 + 11172 then
    some ("HANGUL SYLLABLE " ++ syllableSound (n - 0xAC00))
  else if n = 0x2800 then some "BRAILLE PATTERN BLANK"
  else if 0x2800 < n && n < 0x2900 then
    some ("BRAILLE PATTERN DOTS-" ++ brailleDots (n - 0x2800))
  else if 0xF900 ≤ n && n < 0xFADA && n ≠ 0xFA6E && n ≠ 0xFA6F then
    some ("CJK COMPATIBILITY IDEOGRAPH-" ++ capitalHex n)
  else composedName? 5 c

/-- The character whose number stands at the end of its name. -/
def numberedCharacter? (name : String) : Option Char :=
  let digits := (name.toList.reverse.takeWhile fun c => c.isDigit || ('A' ≤ c && c ≤ 'F')).reverse
  ((naturalIn? 16 digits).filter fun n => n.isValidChar).bind fun n =>
    let c := Char.ofNat n
    if characterName? c == some name then some c else none

def characterNamed? (name : String) : Option Char :=
  let name := name.toUpper
  let patterned := if name.startsWith "CJK " then numberedCharacter? name
    else if name.startsWith "HANGUL SYLLABLE " then
      ((List.range 11172).find? fun n => "HANGUL SYLLABLE " ++ syllableSound n == name).map fun n =>
        Char.ofNat (0xAC00 + n)
    else if name.startsWith "BRAILLE PATTERN " then
      ((List.range 256).find? fun n => characterName? (Char.ofNat (0x2800 + n)) == some name).map
        fun n => Char.ofNat (0x2800 + n)
    else none
  (patterned.or (charactersByName.get.get? name)).or ((controlNames.lookup name).map Char.ofNat)

end Flowboard.Text
