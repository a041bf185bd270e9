/-!
# Names of characters: from Braille to the signs of East Asia

The rows are those that `Text.NameRow` reads.
-/

namespace RiskGauge.Text.CharName

/-- The names of the characters from U+2800 to U+4DFF. -/
def patterns : String := "2800:BRAILLE PATTERN BLANK;2DOTS-1;3-2;3-12;3-3;3-13;3-23;3-123;3-4;3-14;3-24;3-124;3-34;3-134;3-234;3-1234;3-5;3-15
3-25;3-125;3-35;3-135;3-235;3-1235;3-45;3-145;3-245;3-1245;3-345;3-1345;3-2345;3-12345;3-6;3-16;3-26;3-126;3-36
3-136;3-236;3-1236;3-46;3-146;3-246;3-1246;3-346;3-1346;3-2346;3-12346;3-56;3-156;3-256;3-1256;3-356;3-1356;3-2356
3-12356;3-456;3-1456;3-2456;3-12456;3-3456;3-13456;3-23456;3-123456;3-7;3-17;3-27;3-127;3-37;3-137;3-237;3-1237;3-47
3-147;3-247;3-1247;3-347;3-1347;3-2347;3-12347;3-57;3-157;3-257;3-1257;3-357;3-1357;3-2357;3-12357;3-457;3-1457
3-2457;3-12457;3-3457;3-13457;3-23457;3-123457;3-67;3-167;3-267;3-1267;3-367;3-1367;3-2367;3-12367;3-467;3-1467
3-2467;3-12467;3-3467;3-13467;3-23467;3-123467;3-567;3-1567;3-2567;3-12567;3-3567;3-13567;3-23567;3-123567;3-4567
3-14567;3-24567;3-124567;3-34567;3-134567;3-234567;3-1234567;3-8;3-18;3-28;3-128;3-38;3-138;3-238;3-1238;3-48;3-148
3-248;3-1248;3-348;3-1348;3-2348;3-12348;3-58;3-158;3-258;3-1258;3-358;3-1358;3-2358;3-12358;3-458;3-1458;3-2458
3-12458;3-3458;3-13458;3-23458;3-123458;3-68;3-168;3-268;3-1268;3-368;3-1368;3-2368;3-12368;3-468;3-1468;3-2468
3-12468;3-3468;3-13468;3-23468;3-123468;3-568;3-1568;3-2568;3-12568;3-3568;3-13568;3-23568;3-123568;3-4568;3-14568
3-24568;3-124568;3-34568;3-134568;3-234568;3-1234568;3-78;3-178;3-278;3-1278;3-378;3-1378;3-2378;3-12378;3-478
3-1478;3-2478;3-12478;3-3478;3-13478;3-23478;3-123478;3-578;3-1578;3-2578;3-12578;3-3578;3-13578;3-23578;3-123578
3-4578;3-14578;3-24578;3-124578;3-34578;3-134578;3-234578;3-1234578;3-678;3-1678;3-2678;3-12678;3-3678;3-13678
3-23678;3-123678;3-4678;3-14678;3-24678;3-124678;3-34678;3-134678;3-234678;3-1234678;3-5678;3-15678;3-25678;3-125678
3-35678;3-135678;3-235678;3-1235678;3-45678;3-145678;3-245678;3-1245678;3-345678;3-1345678;3-2345678;3-12345678
RIGHTWARDS TWO-HEADED ARROW WITH VERTICAL STROKE;5DOUBLE VERTICAL STROKE;LEFTWARDS DOUBLE ARROW WITH VERTICAL STROKE
RIGHTWARDS DOUBLE ARROW WITH VERTICAL STROKE;LEFT RIGHT DOUBLE ARROW WITH VERTICAL STROKE
RIGHTWARDS TWO-HEADED ARROW FROM BAR;LEFTWARDS DOUBLE ARROW FROM BAR;RIGHTWARDS DOUBLE ARROW FROM BAR
DOWNWARDS ARROW WITH HORIZONTAL STROKE;UPWARDS ARROW WITH HORIZONTAL STROKE;1TRIPLE ARROW;DOWNWARDS TRIPLE ARROW
LEFTWARDS DOUBLE DASH ARROW;RIGHTWARDS DOUBLE DASH ARROW;LEFTWARDS TRIPLE DASH ARROW;RIGHTWARDS TRIPLE DASH ARROW
1TWO-HEADED TRIPLE DASH ARROW;1ARROW WITH DOTTED STEM;UPWARDS ARROW TO BAR;DOWNWARDS ARROW TO BAR
RIGHTWARDS ARROW WITH TAIL WITH VERTICAL STROKE;5DOUBLE VERTICAL STROKE;1TWO-HEADED ARROW WITH TAIL
6WITH VERTICAL STROKE;7DOUBLE VERTICAL STROKE;LEFTWARDS ARROW-TAIL;RIGHTWARDS ARROW-TAIL;LEFTWARDS DOUBLE ARROW-TAIL
RIGHTWARDS DOUBLE ARROW-TAIL;LEFTWARDS ARROW TO BLACK DIAMOND;RIGHTWARDS ARROW TO BLACK DIAMOND
LEFTWARDS ARROW FROM BAR TO BLACK DIAMOND;RIGHTWARDS ARROW FROM BAR TO BLACK DIAMOND;NORTH WEST AND SOUTH EAST ARROW
1EAST AND SOUTH WEST ARROW;1WEST ARROW WITH HOOK;1EAST ARROW WITH HOOK;SOUTH EAST ARROW WITH HOOK
1WEST ARROW WITH HOOK;NORTH WEST ARROW AND NORTH EAST ARROW;1EAST ARROW AND SOUTH EAST ARROW
SOUTH EAST ARROW AND SOUTH WEST ARROW;1WEST ARROW AND NORTH WEST ARROW;RISING DIAGONAL CROSSING FALLING DIAGONAL
FALLING DIAGONAL CROSSING RISING DIAGONAL;SOUTH EAST ARROW CROSSING NORTH EAST ARROW
NORTH EAST ARROW CROSSING SOUTH EAST ARROW;FALLING DIAGONAL CROSSING NORTH EAST ARROW
RISING DIAGONAL CROSSING SOUTH EAST ARROW;NORTH EAST ARROW CROSSING NORTH WEST ARROW
1WEST ARROW CROSSING NORTH EAST ARROW;WAVE ARROW POINTING DIRECTLY RIGHT
ARROW POINTING RIGHTWARDS THEN CURVING UPWARDS;5DOWNWARDS;2DOWNWARDS THEN CURVING LEFTWARDS;5RIGHTWARDS
RIGHT-SIDE ARC CLOCKWISE ARROW;LEFT-SIDE ARC ANTICLOCKWISE ARROW;TOP ARC ANTICLOCKWISE ARROW
BOTTOM ARC ANTICLOCKWISE ARROW;TOP ARC CLOCKWISE ARROW WITH MINUS;2ANTICLOCKWISE ARROW WITH PLUS
LOWER RIGHT SEMICIRCULAR CLOCKWISE ARROW;1LEFT SEMICIRCULAR ANTICLOCKWISE ARROW;ANTICLOCKWISE CLOSED CIRCLE ARROW
CLOCKWISE CLOSED CIRCLE ARROW;RIGHTWARDS ARROW ABOVE SHORT LEFTWARDS ARROW
LEFTWARDS ARROW ABOVE SHORT RIGHTWARDS ARROW;SHORT RIGHTWARDS ARROW ABOVE LEFTWARDS ARROW
RIGHTWARDS ARROW WITH PLUS BELOW;LEFTWARDS ARROW WITH PLUS BELOW;RIGHTWARDS ARROW THROUGH X
LEFT RIGHT ARROW THROUGH SMALL CIRCLE;UPWARDS TWO-HEADED ARROW FROM SMALL CIRCLE
LEFT BARB UP RIGHT BARB DOWN HARPOON;2DOWN RIGHT BARB UP HARPOON;UP BARB RIGHT DOWN BARB LEFT HARPOON
2LEFT DOWN BARB RIGHT HARPOON;LEFT BARB UP RIGHT BARB UP HARPOON;UP BARB RIGHT DOWN BARB RIGHT HARPOON
LEFT BARB DOWN RIGHT BARB DOWN HARPOON;UP BARB LEFT DOWN BARB LEFT HARPOON;LEFTWARDS HARPOON WITH BARB UP TO BAR
RIGHTWARDS HARPOON WITH BARB UP TO BAR;UPWARDS HARPOON WITH BARB RIGHT TO BAR
DOWNWARDS HARPOON WITH BARB RIGHT TO BAR;LEFTWARDS HARPOON WITH BARB DOWN TO BAR
RIGHTWARDS HARPOON WITH BARB DOWN TO BAR;UPWARDS HARPOON WITH BARB LEFT TO BAR
DOWNWARDS HARPOON WITH BARB LEFT TO BAR;LEFTWARDS HARPOON WITH BARB UP FROM BAR
RIGHTWARDS HARPOON WITH BARB UP FROM BAR;UPWARDS HARPOON WITH BARB RIGHT FROM BAR
DOWNWARDS HARPOON WITH BARB RIGHT FROM BAR;LEFTWARDS HARPOON WITH BARB DOWN FROM BAR
RIGHTWARDS HARPOON WITH BARB DOWN FROM BAR;UPWARDS HARPOON WITH BARB LEFT FROM BAR
DOWNWARDS HARPOON WITH BARB LEFT FROM BAR;LEFTWARDS HARPOON WITH BARB UP ABOVE LEFTWARDS HARPOON WITH BARB DOWN
UPWARDS HARPOON WITH BARB LEFT BESIDE UPWARDS HARPOON WITH BARB RIGHT
RIGHTWARDS HARPOON WITH BARB UP ABOVE RIGHTWARDS HARPOON WITH BARB DOWN
DOWNWARDS HARPOON WITH BARB LEFT BESIDE DOWNWARDS HARPOON WITH BARB RIGHT
LEFTWARDS HARPOON WITH BARB UP ABOVE RIGHTWARDS HARPOON WITH BARB UP;4DOWN ABOVE RIGHTWARDS HARPOON WITH BARB DOWN
RIGHTWARDS HARPOON WITH BARB UP ABOVE LEFTWARDS HARPOON WITH BARB UP;4DOWN ABOVE LEFTWARDS HARPOON WITH BARB DOWN
LEFTWARDS HARPOON WITH BARB UP ABOVE LONG DASH;4DOWN BELOW LONG DASH;RIGHTWARDS HARPOON WITH BARB UP ABOVE LONG DASH
4DOWN BELOW LONG DASH;UPWARDS HARPOON WITH BARB LEFT BESIDE DOWNWARDS HARPOON WITH BARB RIGHT
DOWNWARDS HARPOON WITH BARB LEFT BESIDE UPWARDS HARPOON WITH BARB RIGHT;RIGHT DOUBLE ARROW WITH ROUNDED HEAD
EQUALS SIGN ABOVE RIGHTWARDS ARROW;TILDE OPERATOR ABOVE RIGHTWARDS ARROW;LEFTWARDS ARROW ABOVE TILDE OPERATOR
RIGHTWARDS ARROW ABOVE TILDE OPERATOR;3ALMOST EQUAL TO;LESS-THAN ABOVE LEFTWARDS ARROW
LEFTWARDS ARROW THROUGH LESS-THAN;GREATER-THAN ABOVE RIGHTWARDS ARROW;SUBSET ABOVE RIGHTWARDS ARROW
LEFTWARDS ARROW THROUGH SUBSET;SUPERSET ABOVE LEFTWARDS ARROW;LEFT FISH TAIL;RIGHT FISH TAIL;UP FISH TAIL
DOWN FISH TAIL;TRIPLE VERTICAL BAR DELIMITER;Z NOTATION SPOT;2TYPE COLON;LEFT WHITE CURLY BRACKET
RIGHT WHITE CURLY BRACKET;LEFT WHITE PARENTHESIS;RIGHT WHITE PARENTHESIS;Z NOTATION LEFT IMAGE BRACKET
2RIGHT IMAGE BRACKET;2LEFT BINDING BRACKET;2RIGHT BINDING BRACKET;LEFT SQUARE BRACKET WITH UNDERBAR
RIGHT SQUARE BRACKET WITH UNDERBAR;LEFT SQUARE BRACKET WITH TICK IN TOP CORNER
RIGHT SQUARE BRACKET WITH TICK IN BOTTOM CORNER;LEFT SQUARE BRACKET WITH TICK IN BOTTOM CORNER
RIGHT SQUARE BRACKET WITH TICK IN TOP CORNER;LEFT ANGLE BRACKET WITH DOT;RIGHT ANGLE BRACKET WITH DOT
LEFT ARC LESS-THAN BRACKET;RIGHT ARC GREATER-THAN BRACKET;DOUBLE LEFT ARC GREATER-THAN BRACKET
1RIGHT ARC LESS-THAN BRACKET;LEFT BLACK TORTOISE SHELL BRACKET;RIGHT BLACK TORTOISE SHELL BRACKET;DOTTED FENCE
VERTICAL ZIGZAG LINE;MEASURED ANGLE OPENING LEFT;RIGHT ANGLE VARIANT WITH SQUARE;MEASURED RIGHT ANGLE WITH DOT
ANGLE WITH S INSIDE;ACUTE ANGLE;SPHERICAL ANGLE OPENING LEFT;3UP;TURNED ANGLE;REVERSED ANGLE;ANGLE WITH UNDERBAR
REVERSED ANGLE WITH UNDERBAR;OBLIQUE ANGLE OPENING UP;3DOWN
MEASURED ANGLE WITH OPEN ARM ENDING IN ARROW POINTING UP AND RIGHT;9UP AND LEFT;9DOWN AND RIGHT;9DOWN AND LEFT
9RIGHT AND UP;9LEFT AND UP;9RIGHT AND DOWN;9LEFT AND DOWN;REVERSED EMPTY SET;EMPTY SET WITH OVERBAR
3SMALL CIRCLE ABOVE;3RIGHT ARROW ABOVE;3LEFT ARROW ABOVE;CIRCLE WITH HORIZONTAL BAR;CIRCLED VERTICAL BAR;1PARALLEL
1REVERSE SOLIDUS;1PERPENDICULAR;CIRCLE DIVIDED BY HORIZONTAL BAR AND TOP HALF DIVIDED BY VERTICAL BAR
1WITH SUPERIMPOSED X;CIRCLED ANTICLOCKWISE-ROTATED DIVISION SIGN;UP ARROW THROUGH CIRCLE;CIRCLED WHITE BULLET
1BULLET;1LESS-THAN;1GREATER-THAN;CIRCLE WITH SMALL CIRCLE TO THE RIGHT;2TWO HORIZONTAL STROKES TO THE RIGHT
SQUARED RISING DIAGONAL SLASH;1FALLING DIAGONAL SLASH;1ASTERISK;1SMALL CIRCLE;1SQUARE;TWO JOINED SQUARES
TRIANGLE WITH DOT ABOVE;2UNDERBAR;S IN TRIANGLE;TRIANGLE WITH SERIFS AT BOTTOM;RIGHT TRIANGLE ABOVE LEFT TRIANGLE
LEFT TRIANGLE BESIDE VERTICAL BAR;VERTICAL BAR BESIDE RIGHT TRIANGLE;BOWTIE WITH LEFT HALF BLACK;2RIGHT HALF BLACK
BLACK BOWTIE;TIMES WITH LEFT HALF BLACK;2RIGHT HALF BLACK;WHITE HOURGLASS;BLACK HOURGLASS;LEFT WIGGLY FENCE
RIGHT WIGGLY FENCE;LEFT DOUBLE WIGGLY FENCE;RIGHT DOUBLE WIGGLY FENCE;INCOMPLETE INFINITY;TIE OVER INFINITY
INFINITY NEGATED WITH VERTICAL BAR;DOUBLE-ENDED MULTIMAP;SQUARE WITH CONTOURED OUTLINE;INCREASES AS;SHUFFLE PRODUCT
EQUALS SIGN AND SLANTED PARALLEL;5WITH TILDE ABOVE;IDENTICAL TO AND SLANTED PARALLEL;GLEICH STARK;THERMODYNAMIC
DOWN-POINTING TRIANGLE WITH LEFT HALF BLACK;4RIGHT HALF BLACK;BLACK DIAMOND WITH DOWN ARROW;1LOZENGE
WHITE CIRCLE WITH DOWN ARROW;BLACK CIRCLE WITH DOWN ARROW;ERROR-BARRED WHITE SQUARE;2BLACK SQUARE;2WHITE DIAMOND
2BLACK DIAMOND;2WHITE CIRCLE;2BLACK CIRCLE;RULE-DELAYED;REVERSE SOLIDUS OPERATOR;SOLIDUS WITH OVERBAR
REVERSE SOLIDUS WITH HORIZONTAL STROKE;BIG SOLIDUS;1REVERSE SOLIDUS;DOUBLE PLUS;TRIPLE PLUS
LEFT-POINTING CURVED ANGLE BRACKET;RIGHT-POINTING CURVED ANGLE BRACKET;TINY;MINY;N-ARY CIRCLED DOT OPERATOR
3PLUS OPERATOR;3TIMES OPERATOR;2UNION OPERATOR WITH DOT;5PLUS;2SQUARE INTERSECTION OPERATOR;3UNION OPERATOR
TWO LOGICAL AND OPERATOR;2OR OPERATOR;N-ARY TIMES OPERATOR;MODULO TWO SUM;SUMMATION WITH INTEGRAL
QUADRUPLE INTEGRAL OPERATOR;FINITE PART INTEGRAL;INTEGRAL WITH DOUBLE STROKE;1AVERAGE WITH SLASH
CIRCULATION FUNCTION;ANTICLOCKWISE INTEGRATION;LINE INTEGRATION WITH RECTANGULAR PATH AROUND POLE
3SEMICIRCULAR PATH AROUND POLE;2NOT INCLUDING THE POLE;INTEGRAL AROUND A POINT OPERATOR;QUATERNION INTEGRAL OPERATOR
INTEGRAL WITH LEFTWARDS ARROW WITH HOOK;2TIMES SIGN;2INTERSECTION;2UNION;2OVERBAR;2UNDERBAR;JOIN
LARGE LEFT TRIANGLE OPERATOR;Z NOTATION SCHEMA COMPOSITION;3PIPING;3PROJECTION;PLUS SIGN WITH SMALL CIRCLE ABOVE
3CIRCUMFLEX ACCENT ABOVE;3TILDE ABOVE;3DOT BELOW;3TILDE BELOW;3SUBSCRIPT TWO;3BLACK TRIANGLE
MINUS SIGN WITH COMMA ABOVE;3DOT BELOW;3FALLING DOTS;3RISING DOTS;PLUS SIGN IN LEFT HALF CIRCLE;3RIGHT HALF CIRCLE
VECTOR OR CROSS PRODUCT;MULTIPLICATION SIGN WITH DOT ABOVE;3UNDERBAR;SEMIDIRECT PRODUCT WITH BOTTOM CLOSED
SMASH PRODUCT;MULTIPLICATION SIGN IN LEFT HALF CIRCLE;3RIGHT HALF CIRCLE
CIRCLED MULTIPLICATION SIGN WITH CIRCUMFLEX ACCENT;MULTIPLICATION SIGN IN DOUBLE CIRCLE;CIRCLED DIVISION SIGN
PLUS SIGN IN TRIANGLE;MINUS SIGN IN TRIANGLE;MULTIPLICATION SIGN IN TRIANGLE;INTERIOR PRODUCT
RIGHTHAND INTERIOR PRODUCT;Z NOTATION RELATIONAL COMPOSITION;AMALGAMATION OR COPRODUCT;INTERSECTION WITH DOT
UNION WITH MINUS SIGN;2OVERBAR;INTERSECTION WITH OVERBAR;2LOGICAL AND;UNION WITH LOGICAL OR;1ABOVE INTERSECTION
INTERSECTION ABOVE UNION;UNION ABOVE BAR ABOVE INTERSECTION;INTERSECTION ABOVE BAR ABOVE UNION
UNION BESIDE AND JOINED WITH UNION;INTERSECTION BESIDE AND JOINED WITH INTERSECTION;CLOSED UNION WITH SERIFS
1INTERSECTION WITH SERIFS;DOUBLE SQUARE INTERSECTION;2UNION;CLOSED UNION WITH SERIFS AND SMASH PRODUCT
LOGICAL AND WITH DOT ABOVE;1OR WITH DOT ABOVE;DOUBLE LOGICAL AND;2OR;TWO INTERSECTING LOGICAL AND;3OR
SLOPING LARGE OR;2AND;LOGICAL OR OVERLAPPING LOGICAL AND;1AND WITH MIDDLE STEM;1OR WITH MIDDLE STEM
1AND WITH HORIZONTAL DASH;1OR WITH HORIZONTAL DASH;1AND WITH DOUBLE OVERBAR;3UNDERBAR;3DOUBLE UNDERBAR
SMALL VEE WITH UNDERBAR;LOGICAL OR WITH DOUBLE OVERBAR;4UNDERBAR;Z NOTATION DOMAIN ANTIRESTRICTION
2RANGE ANTIRESTRICTION;EQUALS SIGN WITH DOT BELOW;IDENTICAL WITH DOT ABOVE
TRIPLE HORIZONTAL BAR WITH DOUBLE VERTICAL STROKE;4TRIPLE VERTICAL STROKE;TILDE OPERATOR WITH DOT ABOVE;3RISING DOTS
SIMILAR MINUS SIMILAR;CONGRUENT WITH DOT ABOVE;EQUALS WITH ASTERISK;ALMOST EQUAL TO WITH CIRCUMFLEX ACCENT
APPROXIMATELY EQUAL OR EQUAL TO;EQUALS SIGN ABOVE PLUS SIGN;PLUS SIGN ABOVE EQUALS SIGN
EQUALS SIGN ABOVE TILDE OPERATOR;DOUBLE COLON EQUAL;TWO CONSECUTIVE EQUALS SIGNS;THREE CONSECUTIVE EQUALS SIGNS
EQUALS SIGN WITH TWO DOTS ABOVE AND TWO DOTS BELOW;EQUIVALENT WITH FOUR DOTS ABOVE;LESS-THAN WITH CIRCLE INSIDE
GREATER-THAN WITH CIRCLE INSIDE;LESS-THAN WITH QUESTION MARK ABOVE;GREATER-THAN WITH QUESTION MARK ABOVE
LESS-THAN OR SLANTED EQUAL TO;GREATER-THAN OR SLANTED EQUAL TO;LESS-THAN OR SLANTED EQUAL TO WITH DOT INSIDE
GREATER-THAN OR SLANTED EQUAL TO WITH DOT INSIDE;LESS-THAN OR SLANTED EQUAL TO WITH DOT ABOVE
GREATER-THAN OR SLANTED EQUAL TO WITH DOT ABOVE;LESS-THAN OR SLANTED EQUAL TO WITH DOT ABOVE RIGHT
GREATER-THAN OR SLANTED EQUAL TO WITH DOT ABOVE LEFT;LESS-THAN OR APPROXIMATE;GREATER-THAN OR APPROXIMATE
LESS-THAN AND SINGLE-LINE NOT EQUAL TO;GREATER-THAN AND SINGLE-LINE NOT EQUAL TO;LESS-THAN AND NOT APPROXIMATE
GREATER-THAN AND NOT APPROXIMATE;LESS-THAN ABOVE DOUBLE-LINE EQUAL ABOVE GREATER-THAN
GREATER-THAN ABOVE DOUBLE-LINE EQUAL ABOVE LESS-THAN;LESS-THAN ABOVE SIMILAR OR EQUAL
GREATER-THAN ABOVE SIMILAR OR EQUAL;LESS-THAN ABOVE SIMILAR ABOVE GREATER-THAN
GREATER-THAN ABOVE SIMILAR ABOVE LESS-THAN;LESS-THAN ABOVE GREATER-THAN ABOVE DOUBLE-LINE EQUAL
GREATER-THAN ABOVE LESS-THAN ABOVE DOUBLE-LINE EQUAL
LESS-THAN ABOVE SLANTED EQUAL ABOVE GREATER-THAN ABOVE SLANTED EQUAL
GREATER-THAN ABOVE SLANTED EQUAL ABOVE LESS-THAN ABOVE SLANTED EQUAL;SLANTED EQUAL TO OR LESS-THAN;4GREATER-THAN
4LESS-THAN WITH DOT INSIDE;4GREATER-THAN WITH DOT INSIDE;DOUBLE-LINE EQUAL TO OR LESS-THAN;5GREATER-THAN
2SLANTED EQUAL TO OR LESS-THAN;6GREATER-THAN;SIMILAR OR LESS-THAN;2GREATER-THAN;1ABOVE LESS-THAN ABOVE EQUALS SIGN
2GREATER-THAN ABOVE EQUALS SIGN;DOUBLE NESTED LESS-THAN;2GREATER-THAN;2LESS-THAN WITH UNDERBAR
GREATER-THAN OVERLAPPING LESS-THAN;2BESIDE LESS-THAN;LESS-THAN CLOSED BY CURVE;GREATER-THAN CLOSED BY CURVE
LESS-THAN CLOSED BY CURVE ABOVE SLANTED EQUAL;GREATER-THAN CLOSED BY CURVE ABOVE SLANTED EQUAL;SMALLER THAN
LARGER THAN;SMALLER THAN OR EQUAL TO;LARGER THAN OR EQUAL TO;EQUALS SIGN WITH BUMPY ABOVE
PRECEDES ABOVE SINGLE-LINE EQUALS SIGN;SUCCEEDS ABOVE SINGLE-LINE EQUALS SIGN
PRECEDES ABOVE SINGLE-LINE NOT EQUAL TO;SUCCEEDS ABOVE SINGLE-LINE NOT EQUAL TO;PRECEDES ABOVE EQUALS SIGN
SUCCEEDS ABOVE EQUALS SIGN;PRECEDES ABOVE NOT EQUAL TO;SUCCEEDS ABOVE NOT EQUAL TO;PRECEDES ABOVE ALMOST EQUAL TO
SUCCEEDS ABOVE ALMOST EQUAL TO;PRECEDES ABOVE NOT ALMOST EQUAL TO;SUCCEEDS ABOVE NOT ALMOST EQUAL TO;DOUBLE PRECEDES
1SUCCEEDS;SUBSET WITH DOT;SUPERSET WITH DOT;SUBSET WITH PLUS SIGN BELOW;SUPERSET WITH PLUS SIGN BELOW
SUBSET WITH MULTIPLICATION SIGN BELOW;SUPERSET WITH MULTIPLICATION SIGN BELOW;SUBSET OF OR EQUAL TO WITH DOT ABOVE
SUPERSET OF OR EQUAL TO WITH DOT ABOVE;SUBSET OF ABOVE EQUALS SIGN;SUPERSET OF ABOVE EQUALS SIGN
SUBSET OF ABOVE TILDE OPERATOR;SUPERSET OF ABOVE TILDE OPERATOR;SUBSET OF ABOVE ALMOST EQUAL TO
SUPERSET OF ABOVE ALMOST EQUAL TO;SUBSET OF ABOVE NOT EQUAL TO;SUPERSET OF ABOVE NOT EQUAL TO
SQUARE LEFT OPEN BOX OPERATOR;1RIGHT OPEN BOX OPERATOR;CLOSED SUBSET;1SUPERSET;1SUBSET OR EQUAL TO
1SUPERSET OR EQUAL TO;SUBSET ABOVE SUPERSET;SUPERSET ABOVE SUBSET;SUBSET ABOVE SUBSET;SUPERSET ABOVE SUPERSET
1BESIDE SUBSET;2AND JOINED BY DASH WITH SUBSET;ELEMENT OF OPENING DOWNWARDS;PITCHFORK WITH TEE TOP
TRANSVERSAL INTERSECTION;FORKING;NONFORKING;SHORT LEFT TACK;1DOWN TACK;1UP TACK;PERPENDICULAR WITH S
VERTICAL BAR TRIPLE RIGHT TURNSTILE;DOUBLE VERTICAL BAR LEFT TURNSTILE;VERTICAL BAR DOUBLE LEFT TURNSTILE
DOUBLE VERTICAL BAR DOUBLE LEFT TURNSTILE;LONG DASH FROM LEFT MEMBER OF DOUBLE VERTICAL;SHORT DOWN TACK WITH OVERBAR
1UP TACK WITH UNDERBAR;3ABOVE SHORT DOWN TACK;DOUBLE DOWN TACK;1UP TACK;1STROKE NOT SIGN
REVERSED DOUBLE STROKE NOT SIGN;DOES NOT DIVIDE WITH REVERSED NEGATION SLASH;VERTICAL LINE WITH CIRCLE ABOVE;4BELOW
DOWN TACK WITH CIRCLE BELOW;PARALLEL WITH HORIZONTAL STROKE;2TILDE OPERATOR;TRIPLE VERTICAL BAR BINARY RELATION
3WITH HORIZONTAL STROKE;1COLON OPERATOR;1NESTED LESS-THAN;2GREATER-THAN;DOUBLE-LINE SLANTED LESS-THAN OR EQUAL TO
3GREATER-THAN OR EQUAL TO;TRIPLE SOLIDUS BINARY RELATION;LARGE TRIPLE VERTICAL BAR OPERATOR;DOUBLE SOLIDUS OPERATOR
WHITE VERTICAL BAR;N-ARY WHITE VERTICAL BAR;NORTH EAST WHITE ARROW;1WEST WHITE ARROW;SOUTH EAST WHITE ARROW
1WEST WHITE ARROW;LEFT RIGHT WHITE ARROW;LEFTWARDS BLACK ARROW;UPWARDS BLACK ARROW;DOWNWARDS BLACK ARROW
NORTH EAST BLACK ARROW;1WEST BLACK ARROW;SOUTH EAST BLACK ARROW;1WEST BLACK ARROW;LEFT RIGHT BLACK ARROW
UP DOWN BLACK ARROW;RIGHTWARDS ARROW WITH TIP DOWNWARDS;4UPWARDS;LEFTWARDS ARROW WITH TIP DOWNWARDS;4UPWARDS
SQUARE WITH TOP HALF BLACK;2BOTTOM HALF BLACK;2UPPER RIGHT DIAGONAL HALF BLACK;2LOWER LEFT DIAGONAL HALF BLACK
DIAMOND WITH LEFT HALF BLACK;2RIGHT HALF BLACK;2TOP HALF BLACK;2BOTTOM HALF BLACK;DOTTED SQUARE;BLACK LARGE SQUARE
WHITE LARGE SQUARE;BLACK VERY SMALL SQUARE;WHITE VERY SMALL SQUARE;BLACK PENTAGON;WHITE PENTAGON;1HEXAGON
BLACK HEXAGON;HORIZONTAL BLACK HEXAGON;BLACK LARGE CIRCLE;1MEDIUM DIAMOND;WHITE MEDIUM DIAMOND;BLACK MEDIUM LOZENGE
WHITE MEDIUM LOZENGE;BLACK SMALL DIAMOND;2LOZENGE;WHITE SMALL LOZENGE;BLACK HORIZONTAL ELLIPSE
WHITE HORIZONTAL ELLIPSE;BLACK VERTICAL ELLIPSE;WHITE VERTICAL ELLIPSE;LEFT ARROW WITH SMALL CIRCLE
THREE LEFTWARDS ARROWS;LEFT ARROW WITH CIRCLED PLUS;LONG LEFTWARDS SQUIGGLE ARROW
LEFTWARDS TWO-HEADED ARROW WITH VERTICAL STROKE;5DOUBLE VERTICAL STROKE;4FROM BAR;3TRIPLE DASH ARROW
1ARROW WITH DOTTED STEM;3TAIL WITH VERTICAL STROKE;5DOUBLE VERTICAL STROKE;1TWO-HEADED ARROW WITH TAIL
6WITH VERTICAL STROKE;7DOUBLE VERTICAL STROKE;1ARROW THROUGH X;WAVE ARROW POINTING DIRECTLY LEFT
EQUALS SIGN ABOVE LEFTWARDS ARROW;REVERSE TILDE OPERATOR ABOVE LEFTWARDS ARROW
LEFTWARDS ARROW ABOVE REVERSE ALMOST EQUAL TO;RIGHTWARDS ARROW THROUGH GREATER-THAN;3SUPERSET
LEFTWARDS QUADRUPLE ARROW;RIGHTWARDS QUADRUPLE ARROW;REVERSE TILDE OPERATOR ABOVE RIGHTWARDS ARROW
RIGHTWARDS ARROW ABOVE REVERSE ALMOST EQUAL TO;TILDE OPERATOR ABOVE LEFTWARDS ARROW
LEFTWARDS ARROW ABOVE ALMOST EQUAL TO;3REVERSE TILDE OPERATOR;RIGHTWARDS ARROW ABOVE REVERSE TILDE OPERATOR
DOWNWARDS TRIANGLE-HEADED ZIGZAG ARROW;SHORT SLANTED NORTH ARROW;1BACKSLANTED SOUTH ARROW;WHITE MEDIUM STAR
BLACK SMALL STAR;WHITE SMALL STAR;BLACK RIGHT-POINTING PENTAGON;WHITE RIGHT-POINTING PENTAGON;HEAVY LARGE CIRCLE
1OVAL WITH OVAL INSIDE;1CIRCLE WITH CIRCLE INSIDE;2;1CIRCLED SALTIRE;SLANTED NORTH ARROW WITH HOOKED HEAD
BACKSLANTED SOUTH ARROW WITH HOOKED TAIL;SLANTED NORTH ARROW WITH HORIZONTAL TAIL
BACKSLANTED SOUTH ARROW WITH HORIZONTAL TAIL;BENT ARROW POINTING DOWNWARDS THEN NORTH EAST
SHORT BENT ARROW POINTING DOWNWARDS THEN NORTH EAST;LEFTWARDS TRIANGLE-HEADED ARROW;UPWARDS TRIANGLE-HEADED ARROW
RIGHTWARDS TRIANGLE-HEADED ARROW;DOWNWARDS TRIANGLE-HEADED ARROW;LEFT RIGHT TRIANGLE-HEADED ARROW
UP DOWN TRIANGLE-HEADED ARROW;NORTH WEST TRIANGLE-HEADED ARROW;1EAST TRIANGLE-HEADED ARROW
SOUTH EAST TRIANGLE-HEADED ARROW;1WEST TRIANGLE-HEADED ARROW;LEFTWARDS TRIANGLE-HEADED DASHED ARROW
UPWARDS TRIANGLE-HEADED DASHED ARROW;RIGHTWARDS TRIANGLE-HEADED DASHED ARROW;DOWNWARDS TRIANGLE-HEADED DASHED ARROW
CLOCKWISE TRIANGLE-HEADED OPEN CIRCLE ARROW;ANTICLOCKWISE TRIANGLE-HEADED OPEN CIRCLE ARROW
LEFTWARDS TRIANGLE-HEADED ARROW TO BAR;UPWARDS TRIANGLE-HEADED ARROW TO BAR;RIGHTWARDS TRIANGLE-HEADED ARROW TO BAR
DOWNWARDS TRIANGLE-HEADED ARROW TO BAR;2B76:NORTH WEST TRIANGLE-HEADED ARROW TO BAR
1EAST TRIANGLE-HEADED ARROW TO BAR;SOUTH EAST TRIANGLE-HEADED ARROW TO BAR;1WEST TRIANGLE-HEADED ARROW TO BAR
LEFTWARDS TRIANGLE-HEADED ARROW WITH DOUBLE HORIZONTAL STROKE
UPWARDS TRIANGLE-HEADED ARROW WITH DOUBLE HORIZONTAL STROKE
RIGHTWARDS TRIANGLE-HEADED ARROW WITH DOUBLE HORIZONTAL STROKE
DOWNWARDS TRIANGLE-HEADED ARROW WITH DOUBLE HORIZONTAL STROKE;HORIZONTAL TAB KEY;VERTICAL TAB KEY
LEFTWARDS TRIANGLE-HEADED ARROW OVER RIGHTWARDS TRIANGLE-HEADED ARROW
UPWARDS TRIANGLE-HEADED ARROW LEFTWARDS OF DOWNWARDS TRIANGLE-HEADED ARROW
RIGHTWARDS TRIANGLE-HEADED ARROW OVER LEFTWARDS TRIANGLE-HEADED ARROW
DOWNWARDS TRIANGLE-HEADED ARROW LEFTWARDS OF UPWARDS TRIANGLE-HEADED ARROW;LEFTWARDS TRIANGLE-HEADED PAIRED ARROWS
UPWARDS TRIANGLE-HEADED PAIRED ARROWS;RIGHTWARDS TRIANGLE-HEADED PAIRED ARROWS
DOWNWARDS TRIANGLE-HEADED PAIRED ARROWS;LEFTWARDS BLACK CIRCLED WHITE ARROW;UPWARDS BLACK CIRCLED WHITE ARROW
RIGHTWARDS BLACK CIRCLED WHITE ARROW;DOWNWARDS BLACK CIRCLED WHITE ARROW
ANTICLOCKWISE TRIANGLE-HEADED RIGHT U-SHAPED ARROW;3BOTTOM U-SHAPED ARROW;3LEFT U-SHAPED ARROW;3TOP U-SHAPED ARROW
RETURN LEFT;1RIGHT;NEWLINE LEFT;1RIGHT;FOUR CORNER ARROWS CIRCLING ANTICLOCKWISE;RIGHTWARDS BLACK ARROW
2B97:SYMBOL FOR TYPE A ELECTRONICS;THREE-D TOP-LIGHTED LEFTWARDS EQUILATERAL ARROWHEAD
2RIGHT-LIGHTED UPWARDS EQUILATERAL ARROWHEAD;2TOP-LIGHTED RIGHTWARDS EQUILATERAL ARROWHEAD
2LEFT-LIGHTED DOWNWARDS EQUILATERAL ARROWHEAD;BLACK LEFTWARDS EQUILATERAL ARROWHEAD;1UPWARDS EQUILATERAL ARROWHEAD
1RIGHTWARDS EQUILATERAL ARROWHEAD;1DOWNWARDS EQUILATERAL ARROWHEAD
DOWNWARDS TRIANGLE-HEADED ARROW WITH LONG TIP LEFTWARDS;7RIGHTWARDS
UPWARDS TRIANGLE-HEADED ARROW WITH LONG TIP LEFTWARDS;7RIGHTWARDS
LEFTWARDS TRIANGLE-HEADED ARROW WITH LONG TIP UPWARDS;RIGHTWARDS TRIANGLE-HEADED ARROW WITH LONG TIP UPWARDS
LEFTWARDS TRIANGLE-HEADED ARROW WITH LONG TIP DOWNWARDS;RIGHTWARDS TRIANGLE-HEADED ARROW WITH LONG TIP DOWNWARDS
BLACK CURVED DOWNWARDS AND LEFTWARDS ARROW;4RIGHTWARDS ARROW;2UPWARDS AND LEFTWARDS ARROW;4RIGHTWARDS ARROW
2LEFTWARDS AND UPWARDS ARROW;2RIGHTWARDS AND UPWARDS ARROW;2LEFTWARDS AND DOWNWARDS ARROW
2RIGHTWARDS AND DOWNWARDS ARROW;RIBBON ARROW DOWN LEFT;3RIGHT;2UP LEFT;3RIGHT;2LEFT UP;2RIGHT UP;2LEFT DOWN
2RIGHT DOWN;UPWARDS WHITE ARROW FROM BAR WITH HORIZONTAL BAR;UP ARROWHEAD IN A RECTANGLE BOX
OVERLAPPING WHITE SQUARES;2AND BLACK SQUARES;1BLACK SQUARES;BALLOT BOX WITH LIGHT X;CIRCLED X;1BOLD X
BLACK SQUARE CENTRED;1DIAMOND CENTRED;TURNED BLACK PENTAGON;HORIZONTAL BLACK OCTAGON;BLACK OCTAGON
1MEDIUM UP-POINTING TRIANGLE CENTRED;2DOWN-POINTING TRIANGLE CENTRED;2LEFT-POINTING TRIANGLE CENTRED
2RIGHT-POINTING TRIANGLE CENTRED;NEPTUNE FORM TWO;TOP HALF BLACK CIRCLE;BOTTOM HALF BLACK CIRCLE
LIGHT FOUR POINTED BLACK CUSP;ROTATED LIGHT FOUR POINTED BLACK CUSP;WHITE FOUR POINTED CUSP
ROTATED WHITE FOUR POINTED CUSP;SQUARE POSITION INDICATOR;UNCERTAINTY SIGN;GROUP MARK;PLUTO FORM TWO;2THREE;2FOUR
2FIVE;TRANSPLUTO;PROSERPINA;ASTRAEA;HYGIEA;PHOLUS;NESSUS;WHITE MOON SELENA;BLACK DIAMOND ON CROSS
TRUE LIGHT MOON ARTA;CUPIDO;HADES;ZEUS;KRONOS;APOLLON;ADMETOS;VULCANUS;POSEIDON;LEFT HALF BLACK STAR
RIGHT HALF BLACK STAR;STAR WITH LEFT HALF BLACK;2RIGHT HALF BLACK
LEFTWARDS TWO-HEADED ARROW WITH TRIANGLE ARROWHEADS;UPWARDS TWO-HEADED ARROW WITH TRIANGLE ARROWHEADS
RIGHTWARDS TWO-HEADED ARROW WITH TRIANGLE ARROWHEADS;DOWNWARDS TWO-HEADED ARROW WITH TRIANGLE ARROWHEADS
ERIS FORM ONE;2TWO;SEDNA;RUSSIAN ASTROLOGICAL SYMBOL VIGINTILE;3NOVILE;3QUINTILE;3BINOVILE;3SENTAGON;3TREDECILE
EQUALS SIGN WITH INFINITY BELOW;UNITED SYMBOL;SEPARATED SYMBOL;DOUBLED SYMBOL;PASSED SYMBOL;REVERSED RIGHT ANGLE
HELLSCHREIBER PAUSE SYMBOL;GLAGOLITIC CAPITAL LETTER AZU;3BUKY;3VEDE;3GLAGOLI;3DOBRO;3YESTU;3ZHIVETE;3DZELO;3ZEMLJA
3IZHE;3INITIAL IZHE;3I;3DJERVI;3KAKO;3LJUDIJE;3MYSLITE;3NASHI;3ONU;3POKOJI;3RITSI;3SLOVO;3TVRIDO;3UKU;3FRITU;3HERU
3OTU;3PE;3SHTA;3TSI;3CHRIVI;3SHA;3YERU;3YERI;3YATI;3SPIDERY HA;3YU;3SMALL YUS;5WITH TAIL;3YO;3IOTATED SMALL YUS
3BIG YUS;3IOTATED BIG YUS;3FITA;3IZHITSA;3SHTAPIC;3TROKUTASTI A;3LATINATE MYSLITE;3CAUDATE CHRIVI;1SMALL LETTER AZU
3BUKY;3VEDE;3GLAGOLI;3DOBRO;3YESTU;3ZHIVETE;3DZELO;3ZEMLJA;3IZHE;3INITIAL IZHE;3I;3DJERVI;3KAKO;3LJUDIJE;3MYSLITE
3NASHI;3ONU;3POKOJI;3RITSI;3SLOVO;3TVRIDO;3UKU;3FRITU;3HERU;3OTU;3PE;3SHTA;3TSI;3CHRIVI;3SHA;3YERU;3YERI;3YATI
3SPIDERY HA;3YU;3SMALL YUS;5WITH TAIL;3YO;3IOTATED SMALL YUS;3BIG YUS;3IOTATED BIG YUS;3FITA;3IZHITSA;3SHTAPIC
3TROKUTASTI A;3LATINATE MYSLITE;3CAUDATE CHRIVI;LATIN CAPITAL LETTER L WITH DOUBLE BAR
1SMALL LETTER L WITH DOUBLE BAR;1CAPITAL LETTER L WITH MIDDLE TILDE;3P WITH STROKE;3R WITH TAIL
1SMALL LETTER A WITH STROKE;3T WITH DIAGONAL STROKE;1CAPITAL LETTER H WITH DESCENDER;1SMALL LETTER H WITH DESCENDER
1CAPITAL LETTER K WITH DESCENDER;1SMALL LETTER K WITH DESCENDER;1CAPITAL LETTER Z WITH DESCENDER
1SMALL LETTER Z WITH DESCENDER;1CAPITAL LETTER ALPHA;3M WITH HOOK;3TURNED A;4ALPHA;1SMALL LETTER V WITH RIGHT HOOK
1CAPITAL LETTER W WITH HOOK;1SMALL LETTER W WITH HOOK;3V WITH CURL;1CAPITAL LETTER HALF H;1SMALL LETTER HALF H
3TAILLESS PHI;3E WITH NOTCH;3TURNED R WITH TAIL;3O WITH LOW RING INSIDE;1LETTER SMALL CAPITAL TURNED E
1SUBSCRIPT SMALL LETTER J;MODIFIER LETTER CAPITAL V;LATIN CAPITAL LETTER S WITH SWASH TAIL;3Z WITH SWASH TAIL
COPTIC CAPITAL LETTER ALFA;1SMALL LETTER ALFA;1CAPITAL LETTER VIDA;1SMALL LETTER VIDA;1CAPITAL LETTER GAMMA
1SMALL LETTER GAMMA;1CAPITAL LETTER DALDA;1SMALL LETTER DALDA;1CAPITAL LETTER EIE;1SMALL LETTER EIE
1CAPITAL LETTER SOU;1SMALL LETTER SOU;1CAPITAL LETTER ZATA;1SMALL LETTER ZATA;1CAPITAL LETTER HATE
1SMALL LETTER HATE;1CAPITAL LETTER THETHE;1SMALL LETTER THETHE;1CAPITAL LETTER IAUDA;1SMALL LETTER IAUDA
1CAPITAL LETTER KAPA;1SMALL LETTER KAPA;1CAPITAL LETTER LAULA;1SMALL LETTER LAULA;1CAPITAL LETTER MI
1SMALL LETTER MI;1CAPITAL LETTER NI;1SMALL LETTER NI;1CAPITAL LETTER KSI;1SMALL LETTER KSI;1CAPITAL LETTER O
1SMALL LETTER O;1CAPITAL LETTER PI;1SMALL LETTER PI;1CAPITAL LETTER RO;1SMALL LETTER RO;1CAPITAL LETTER SIMA
1SMALL LETTER SIMA;1CAPITAL LETTER TAU;1SMALL LETTER TAU;1CAPITAL LETTER UA;1SMALL LETTER UA;1CAPITAL LETTER FI
1SMALL LETTER FI;1CAPITAL LETTER KHI;1SMALL LETTER KHI;1CAPITAL LETTER PSI;1SMALL LETTER PSI;1CAPITAL LETTER OOU
1SMALL LETTER OOU;1CAPITAL LETTER DIALECT-P ALEF;1SMALL LETTER DIALECT-P ALEF;1CAPITAL LETTER OLD COPTIC AIN
1SMALL LETTER OLD COPTIC AIN;1CAPITAL LETTER CRYPTOGRAMMIC EIE;1SMALL LETTER CRYPTOGRAMMIC EIE
1CAPITAL LETTER DIALECT-P KAPA;1SMALL LETTER DIALECT-P KAPA;1CAPITAL LETTER DIALECT-P NI;1SMALL LETTER DIALECT-P NI
1CAPITAL LETTER CRYPTOGRAMMIC NI;1SMALL LETTER CRYPTOGRAMMIC NI;1CAPITAL LETTER OLD COPTIC OOU
1SMALL LETTER OLD COPTIC OOU;1CAPITAL LETTER SAMPI;1SMALL LETTER SAMPI;1CAPITAL LETTER CROSSED SHEI
1SMALL LETTER CROSSED SHEI;1CAPITAL LETTER OLD COPTIC SHEI;1SMALL LETTER OLD COPTIC SHEI
1CAPITAL LETTER OLD COPTIC ESH;1SMALL LETTER OLD COPTIC ESH;1CAPITAL LETTER AKHMIMIC KHEI
1SMALL LETTER AKHMIMIC KHEI;1CAPITAL LETTER DIALECT-P HORI;1SMALL LETTER DIALECT-P HORI
1CAPITAL LETTER OLD COPTIC HORI;1SMALL LETTER OLD COPTIC HORI;1CAPITAL LETTER OLD COPTIC HA
1SMALL LETTER OLD COPTIC HA;1CAPITAL LETTER L-SHAPED HA;1SMALL LETTER L-SHAPED HA;1CAPITAL LETTER OLD COPTIC HEI
1SMALL LETTER OLD COPTIC HEI;1CAPITAL LETTER OLD COPTIC HAT;1SMALL LETTER OLD COPTIC HAT
1CAPITAL LETTER OLD COPTIC GANGIA;1SMALL LETTER OLD COPTIC GANGIA;1CAPITAL LETTER OLD COPTIC DJA
1SMALL LETTER OLD COPTIC DJA;1CAPITAL LETTER OLD COPTIC SHIMA;1SMALL LETTER OLD COPTIC SHIMA
1CAPITAL LETTER OLD NUBIAN SHIMA;1SMALL LETTER OLD NUBIAN SHIMA;1CAPITAL LETTER OLD NUBIAN NGI
1SMALL LETTER OLD NUBIAN NGI;1CAPITAL LETTER OLD NUBIAN NYI;1SMALL LETTER OLD NUBIAN NYI
1CAPITAL LETTER OLD NUBIAN WAU;1SMALL LETTER OLD NUBIAN WAU;1SYMBOL KAI;2MI RO;2PI RO;2STAUROS;2TAU RO;2KHI RO
2SHIMA SIMA;1CAPITAL LETTER CRYPTOGRAMMIC SHEI;1SMALL LETTER CRYPTOGRAMMIC SHEI;1CAPITAL LETTER CRYPTOGRAMMIC GANGIA
1SMALL LETTER CRYPTOGRAMMIC GANGIA;1COMBINING NI ABOVE;2SPIRITUS ASPER;3LENIS;1CAPITAL LETTER BOHAIRIC KHEI
1SMALL LETTER BOHAIRIC KHEI;2CF9:1OLD NUBIAN FULL STOP;3DIRECT QUESTION MARK;3INDIRECT QUESTION MARK;3VERSE DIVIDER
1FRACTION ONE HALF;1FULL STOP;1MORPHOLOGICAL DIVIDER;GEORGIAN SMALL LETTER AN;3BAN;3GAN;3DON;3EN;3VIN;3ZEN;3TAN;3IN
3KAN;3LAS;3MAN;3NAR;3ON;3PAR;3ZHAR;3RAE;3SAN;3TAR;3UN;3PHAR;3KHAR;3GHAN;3QAR;3SHIN;3CHIN;3CAN;3JIL;3CIL;3CHAR;3XAN
3JHAN;3HAE;3HE;3HIE;3WE;3HAR;3HOE;2D27:3YN;2D2D:3AEN;2D30:TIFINAGH LETTER YA;2YAB;2YABH;2YAG;2YAGHH
2BERBER ACADEMY YAJ;2YAJ;2YAD;2YADH;2YADD;2YADDH;2YEY;2YAF;2YAK;2TUAREG YAK;2YAKHH;2YAH;2BERBER ACADEMY YAH
2TUAREG YAH;2YAHH;2YAA;2YAKH;2TUAREG YAKH;2YAQ;2TUAREG YAQ;2YI;2YAZH;2AHAGGAR YAZH;2TUAREG YAZH;2YAL;2YAM;2YAN
2TUAREG YAGN;3YANG;2YAP;2YU;2YAR;2YARR;2YAGH;2TUAREG YAGH;2AYER YAGH;2YAS;2YASS;2YASH;2YAT;2YATH;2YACH;2YATT;2YAV
2YAW;2YAY;2YAZ;2TAWELLEMET YAZ;2YAZZ;2YE;2YO;2D6F:1MODIFIER LETTER LABIALIZATION MARK;1SEPARATOR MARK
2D7F:1CONSONANT JOINER;ETHIOPIC SYLLABLE LOA;2MOA;2ROA;2SOA;2SHOA;2BOA;2TOA;2COA;2NOA;2NYOA;2GLOTTAL OA;2ZOA;2DOA
2DDOA;2JOA;2THOA;2CHOA;2PHOA;2POA;2GGWA;2GGWI;2GGWEE;2GGWE;2DA0:2SSA;2SSU;2SSI;2SSAA;2SSEE;2SSE;2SSO;2DA8:2CCA;2CCU
2CCI;2CCAA;2CCEE;2CCE;2CCO;2DB0:2ZZA;2ZZU;2ZZI;2ZZAA;2ZZEE;2ZZE;2ZZO;2DB8:2CCHA;2CCHU;2CCHI;2CCHAA;2CCHEE;2CCHE
2CCHO;2DC0:2QYA;2QYU;2QYI;2QYAA;2QYEE;2QYE;2QYO;2DC8:2KYA;2KYU;2KYI;2KYAA;2KYEE;2KYE;2KYO;2DD0:2XYA;2XYU;2XYI;2XYAA
2XYEE;2XYE;2XYO;2DD8:2GYA;2GYU;2GYI;2GYAA;2GYEE;2GYE;2GYO;2DE0:COMBINING CYRILLIC LETTER BE;3VE;3GHE;3DE;3ZHE;3ZE
3KA;3EL;3EM;3EN;3O;3PE;3ER;3ES;3TE;3HA;3TSE;3CHE;3SHA;3SHCHA;3FITA;3ES-TE;3A;3IE;3DJERV;3MONOGRAPH UK;3YAT;3YU
3IOTIFIED A;3LITTLE YUS;3BIG YUS;3IOTIFIED BIG YUS;RIGHT ANGLE SUBSTITUTION MARKER;2DOTTED SUBSTITUTION MARKER
LEFT SUBSTITUTION BRACKET;RIGHT SUBSTITUTION BRACKET;LEFT DOTTED SUBSTITUTION BRACKET
RIGHT DOTTED SUBSTITUTION BRACKET;RAISED INTERPOLATION MARKER;1DOTTED INTERPOLATION MARKER
DOTTED TRANSPOSITION MARKER;LEFT TRANSPOSITION BRACKET;RIGHT TRANSPOSITION BRACKET;RAISED SQUARE
LEFT RAISED OMISSION BRACKET;RIGHT RAISED OMISSION BRACKET;EDITORIAL CORONIS;PARAGRAPHOS;FORKED PARAGRAPHOS
REVERSED FORKED PARAGRAPHOS;HYPODIASTOLE;DOTTED OBELOS;DOWNWARDS ANCORA;UPWARDS ANCORA;DOTTED RIGHT-POINTING ANGLE
DOUBLE OBLIQUE HYPHEN;INVERTED INTERROBANG;PALM BRANCH;HYPHEN WITH DIAERESIS;TILDE WITH RING ABOVE
LEFT LOW PARAPHRASE BRACKET;RIGHT LOW PARAPHRASE BRACKET;TILDE WITH DOT ABOVE;3BELOW;LEFT VERTICAL BAR WITH QUILL
RIGHT VERTICAL BAR WITH QUILL;TOP LEFT HALF BRACKET;1RIGHT HALF BRACKET;BOTTOM LEFT HALF BRACKET;1RIGHT HALF BRACKET
LEFT SIDEWAYS U BRACKET;RIGHT SIDEWAYS U BRACKET;LEFT DOUBLE PARENTHESIS;RIGHT DOUBLE PARENTHESIS
TWO DOTS OVER ONE DOT PUNCTUATION;ONE DOT OVER TWO DOTS PUNCTUATION;SQUARED FOUR DOT PUNCTUATION;FIVE DOT MARK
REVERSED QUESTION MARK;VERTICAL TILDE;RING POINT;WORD SEPARATOR MIDDLE DOT;TURNED COMMA;RAISED DOT;1COMMA
TURNED SEMICOLON;DAGGER WITH LEFT GUARD;2RIGHT GUARD;TURNED DAGGER;TOP HALF SECTION SIGN;TWO-EM DASH;THREE-EM DASH
STENOGRAPHIC FULL STOP;VERTICAL SIX DOTS;WIGGLY VERTICAL LINE;CAPITULUM;DOUBLE HYPHEN;REVERSED COMMA
DOUBLE LOW-REVERSED-9 QUOTATION MARK;DASH WITH LEFT UPTURN;DOUBLE SUSPENSION MARK;INVERTED LOW KAVYKA
3WITH KAVYKA ABOVE;LOW KAVYKA;2WITH DOT;DOUBLE STACKED COMMA;DOTTED SOLIDUS;TRIPLE DAGGER;MEDIEVAL COMMA
PARAGRAPHUS MARK;PUNCTUS ELEVATUS MARK;CORNISH VERSE DIVIDER;CROSS PATTY WITH RIGHT CROSSBAR;3LEFT CROSSBAR
TIRONIAN SIGN CAPITAL ET;MEDIEVAL EXCLAMATION MARK;1QUESTION MARK;LEFT SQUARE BRACKET WITH STROKE
RIGHT SQUARE BRACKET WITH STROKE;LEFT SQUARE BRACKET WITH DOUBLE STROKE;RIGHT SQUARE BRACKET WITH DOUBLE STROKE
TOP HALF LEFT PARENTHESIS;2RIGHT PARENTHESIS;BOTTOM HALF LEFT PARENTHESIS;2RIGHT PARENTHESIS;OBLIQUE HYPHEN
2E80:CJK RADICAL REPEAT;2CLIFF;2SECOND ONE;3TWO;3THREE;2PERSON;2BOX;2TABLE;2KNIFE ONE;3TWO;2DIVINATION;2SEAL
2SMALL ONE;3TWO;2LAME ONE;3TWO;3THREE;3FOUR;2SNAKE;2THREAD;2SNOUT ONE;3TWO;2HEART ONE;3TWO;2HAND;2RAP;2E9B:2CHOKE
2SUN;2MOON;2DEATH;2MOTHER;2CIVILIAN;2WATER ONE;3TWO;2FIRE;2PAW ONE;3TWO;2SIMPLIFIED HALF TREE TRUNK;2COW;2DOG;2JADE
2BOLT OF CLOTH;2EYE;2SPIRIT ONE;3TWO;2BAMBOO;2SILK;2C-SIMPLIFIED SILK;2NET ONE;3TWO;3THREE;3FOUR;2MESH;2SHEEP;2RAM
2EWE;2OLD;2BRUSH ONE;3TWO;2MEAT;2MORTAR;2GRASS ONE;3TWO;3THREE;2TIGER;2CLOTHES;2WEST ONE;3TWO;2C-SIMPLIFIED SEE
2SIMPLIFIED HORN;2HORN;2C-SIMPLIFIED SPEECH;4SHELL;2FOOT;2C-SIMPLIFIED CART;2SIMPLIFIED WALK;2WALK ONE;3TWO;2CITY
2C-SIMPLIFIED GOLD;2LONG ONE;3TWO;2C-SIMPLIFIED LONG;4GATE;2MOUND ONE;3TWO;2RAIN;2BLUE;2C-SIMPLIFIED TANNED LEATHER
4LEAF;4WIND;4FLY;2EAT ONE;3TWO;3THREE;2C-SIMPLIFIED EAT;2HEAD;2C-SIMPLIFIED HORSE;2BONE;2GHOST;2C-SIMPLIFIED FISH
4BIRD;4SALT;2SIMPLIFIED WHEAT;3YELLOW;2C-SIMPLIFIED FROG;2J-SIMPLIFIED EVEN;2C-SIMPLIFIED EVEN;2J-SIMPLIFIED TOOTH
2C-SIMPLIFIED TOOTH;2J-SIMPLIFIED DRAGON;2C-SIMPLIFIED DRAGON;2TURTLE;2J-SIMPLIFIED TURTLE;2C-SIMPLIFIED TURTLE
2F00:KANGXI RADICAL ONE;2LINE;2DOT;2SLASH;2SECOND;2HOOK;2TWO;2LID;2MAN;2LEGS;2ENTER;2EIGHT;2DOWN BOX;2COVER;2ICE
2TABLE;2OPEN BOX;2KNIFE;2POWER;2WRAP;2SPOON;2RIGHT OPEN BOX;2HIDING ENCLOSURE;2TEN;2DIVINATION;2SEAL;2CLIFF;2PRIVATE
2AGAIN;2MOUTH;2ENCLOSURE;2EARTH;2SCHOLAR;2GO;3SLOWLY;2EVENING;2BIG;2WOMAN;2CHILD;2ROOF;2INCH;2SMALL;2LAME;2CORPSE
2SPROUT;2MOUNTAIN;2RIVER;2WORK;2ONESELF;2TURBAN;2DRY;2SHORT THREAD;2DOTTED CLIFF;2LONG STRIDE;2TWO HANDS;2SHOOT;2BOW
2SNOUT;2BRISTLE;2STEP;2HEART;2HALBERD;2DOOR;2HAND;2BRANCH;2RAP;2SCRIPT;2DIPPER;2AXE;2SQUARE;2NOT;2SUN;2SAY;2MOON
2TREE;2LACK;2STOP;2DEATH;2WEAPON;2DO NOT;2COMPARE;2FUR;2CLAN;2STEAM;2WATER;2FIRE;2CLAW;2FATHER;2DOUBLE X
2HALF TREE TRUNK;2SLICE;2FANG;2COW;2DOG;2PROFOUND;2JADE;2MELON;2TILE;2SWEET;2LIFE;2USE;2FIELD;2BOLT OF CLOTH
2SICKNESS;2DOTTED TENT;2WHITE;2SKIN;2DISH;2EYE;2SPEAR;2ARROW;2STONE;2SPIRIT;2TRACK;2GRAIN;2CAVE;2STAND;2BAMBOO;2RICE
2SILK;2JAR;2NET;2SHEEP;2FEATHER;2OLD;2AND;2PLOW;2EAR;2BRUSH;2MEAT;2MINISTER;2SELF;2ARRIVE;2MORTAR;2TONGUE;2OPPOSE
2BOAT;2STOPPING;2COLOR;2GRASS;2TIGER;2INSECT;2BLOOD;2WALK ENCLOSURE;2CLOTHES;2WEST;2SEE;2HORN;2SPEECH;2VALLEY;2BEAN
2PIG;2BADGER;2SHELL;2RED;2RUN;2FOOT;2BODY;2CART;2BITTER;2MORNING;2WALK;2CITY;2WINE;2DISTINGUISH;2VILLAGE;2GOLD;2LONG
2GATE;2MOUND;2SLAVE;2SHORT TAILED BIRD;2RAIN;2BLUE;2WRONG;2FACE;2LEATHER;2TANNED LEATHER;2LEEK;2SOUND;2LEAF;2WIND
2FLY;2EAT;2HEAD;2FRAGRANT;2HORSE;2BONE;2TALL;2HAIR;2FIGHT;2SACRIFICIAL WINE;2CAULDRON;2GHOST;2FISH;2BIRD;2SALT;2DEER
2WHEAT;2HEMP;2YELLOW;2MILLET;2BLACK;2EMBROIDERY;2FROG;2TRIPOD;2DRUM;2RAT;2NOSE;2EVEN;2TOOTH;2DRAGON;2TURTLE;2FLUTE
2FF0:IDEOGRAPHIC DESCRIPTION CHARACTER LEFT TO RIGHT;3ABOVE TO BELOW;3LEFT TO MIDDLE AND RIGHT
3ABOVE TO MIDDLE AND BELOW;3FULL SURROUND;3SURROUND FROM ABOVE;5BELOW;5LEFT;5UPPER LEFT;6RIGHT;5LOWER LEFT;3OVERLAID
3000:1SPACE;1COMMA;1FULL STOP;DITTO MARK;JAPANESE INDUSTRIAL STANDARD SYMBOL;IDEOGRAPHIC ITERATION MARK
1CLOSING MARK;1NUMBER ZERO;LEFT ANGLE BRACKET;RIGHT ANGLE BRACKET;LEFT DOUBLE ANGLE BRACKET
RIGHT DOUBLE ANGLE BRACKET;LEFT CORNER BRACKET;RIGHT CORNER BRACKET;LEFT WHITE CORNER BRACKET
RIGHT WHITE CORNER BRACKET;LEFT BLACK LENTICULAR BRACKET;RIGHT BLACK LENTICULAR BRACKET;POSTAL MARK;GETA MARK
LEFT TORTOISE SHELL BRACKET;RIGHT TORTOISE SHELL BRACKET;LEFT WHITE LENTICULAR BRACKET
RIGHT WHITE LENTICULAR BRACKET;LEFT WHITE TORTOISE SHELL BRACKET;RIGHT WHITE TORTOISE SHELL BRACKET
LEFT WHITE SQUARE BRACKET;RIGHT WHITE SQUARE BRACKET;WAVE DASH;REVERSED DOUBLE PRIME QUOTATION MARK
DOUBLE PRIME QUOTATION MARK;LOW DOUBLE PRIME QUOTATION MARK;POSTAL MARK FACE;HANGZHOU NUMERAL ONE;2TWO;2THREE;2FOUR
2FIVE;2SIX;2SEVEN;2EIGHT;2NINE;IDEOGRAPHIC LEVEL TONE MARK;1RISING TONE MARK;1DEPARTING TONE MARK
1ENTERING TONE MARK;HANGUL SINGLE DOT TONE MARK;1DOUBLE DOT TONE MARK;WAVY DASH;VERTICAL KANA REPEAT MARK
3WITH VOICED SOUND MARK;3MARK UPPER HALF;3WITH VOICED SOUND MARK UPPER HALF;3MARK LOWER HALF;CIRCLED POSTAL MARK
IDEOGRAPHIC TELEGRAPH LINE FEED SEPARATOR SYMBOL;HANGZHOU NUMERAL TEN;2TWENTY;2THIRTY
VERTICAL IDEOGRAPHIC ITERATION MARK;MASU MARK;PART ALTERNATION MARK;IDEOGRAPHIC VARIATION INDICATOR;1HALF FILL SPACE
3041:HIRAGANA LETTER SMALL A;2A;2SMALL I;2I;2SMALL U;2U;2SMALL E;2E;2SMALL O;2O;2KA;2GA;2KI;2GI;2KU;2GU;2KE;2GE;2KO
2GO;2SA;2ZA;2SI;2ZI;2SU;2ZU;2SE;2ZE;2SO;2ZO;2TA;2DA;2TI;2DI;2SMALL TU;2TU;2DU;2TE;2DE;2TO;2DO;2NA;2NI;2NU;2NE;2NO
2HA;2BA;2PA;2HI;2BI;2PI;2HU;2BU;2PU;2HE;2BE;2PE;2HO;2BO;2PO;2MA;2MI;2MU;2ME;2MO;2SMALL YA;2YA;2SMALL YU;2YU
2SMALL YO;2YO;2RA;2RI;2RU;2RE;2RO;2SMALL WA;2WA;2WI;2WE;2WO;2N;2VU;2SMALL KA;3KE
3099:COMBINING KATAKANA-HIRAGANA VOICED SOUND MARK;3SEMI-VOICED SOUND MARK;KATAKANA-HIRAGANA VOICED SOUND MARK
2SEMI-VOICED SOUND MARK;HIRAGANA ITERATION MARK;1VOICED ITERATION MARK;1DIGRAPH YORI;KATAKANA-HIRAGANA DOUBLE HYPHEN
1LETTER SMALL A;2A;2SMALL I;2I;2SMALL U;2U;2SMALL E;2E;2SMALL O;2O;2KA;2GA;2KI;2GI;2KU;2GU;2KE;2GE;2KO;2GO;2SA;2ZA
2SI;2ZI;2SU;2ZU;2SE;2ZE;2SO;2ZO;2TA;2DA;2TI;2DI;2SMALL TU;2TU;2DU;2TE;2DE;2TO;2DO;2NA;2NI;2NU;2NE;2NO;2HA;2BA;2PA
2HI;2BI;2PI;2HU;2BU;2PU;2HE;2BE;2PE;2HO;2BO;2PO;2MA;2MI;2MU;2ME;2MO;2SMALL YA;2YA;2SMALL YU;2YU;2SMALL YO;2YO;2RA
2RI;2RU;2RE;2RO;2SMALL WA;2WA;2WI;2WE;2WO;2N;2VU;2SMALL KA;3KE;2VA;2VI;2VE;2VO;1MIDDLE DOT
1-HIRAGANA PROLONGED SOUND MARK;1ITERATION MARK;1VOICED ITERATION MARK;1DIGRAPH KOTO;3105:BOPOMOFO LETTER B;2P;2M;2F
2D;2T;2N;2L;2G;2K;2H;2J;2Q;2X;2ZH;2CH;2SH;2R;2Z;2C;2S;2A;2O;2E;2EH;2AI;2EI;2AU;2OU;2AN;2EN;2ANG;2ENG;2ER;2I;2U;2IU
2V;2NG;2GN;2IH;2O WITH DOT ABOVE;2NN;3131:HANGUL LETTER KIYEOK;2SSANGKIYEOK;2KIYEOK-SIOS;2NIEUN;3-CIEUC;3-HIEUH
2TIKEUT;2SSANGTIKEUT;2RIEUL;3-KIYEOK;3-MIEUM;3-PIEUP;3-SIOS;3-THIEUTH;3-PHIEUPH;3-HIEUH;2MIEUM;2PIEUP;2SSANGPIEUP
2PIEUP-SIOS;2SIOS;2SSANGSIOS;2IEUNG;2CIEUC;2SSANGCIEUC;2CHIEUCH;2KHIEUKH;2THIEUTH;2PHIEUPH;2HIEUH;2A;2AE;2YA;2YAE
2EO;2E;2YEO;2YE;2O;2WA;2WAE;2OE;2YO;2U;2WEO;2WE;2WI;2YU;2EU;2YI;2I;1FILLER;1LETTER SSANGNIEUN;2NIEUN-TIKEUT;3-SIOS
3-PANSIOS;2RIEUL-KIYEOK-SIOS;3-TIKEUT;3-PIEUP-SIOS;3-PANSIOS;3-YEORINHIEUH;2MIEUM-PIEUP;3-SIOS;3-PANSIOS
2KAPYEOUNMIEUM;2PIEUP-KIYEOK;3-TIKEUT;3-SIOS-KIYEOK;4-TIKEUT;3-CIEUC;3-THIEUTH;2KAPYEOUNPIEUP;2KAPYEOUNSSANGPIEUP
2SIOS-KIYEOK;3-NIEUN;3-TIKEUT;3-PIEUP;3-CIEUC;2PANSIOS;2SSANGIEUNG;2YESIEUNG;3-SIOS;3-PANSIOS;2KAPYEOUNPHIEUPH
2SSANGHIEUH;2YEORINHIEUH;2YO-YA;3-YAE;3-I;2YU-YEO;3-YE;3-I;2ARAEA;2ARAEAE;3190:IDEOGRAPHIC ANNOTATION LINKING MARK
2REVERSE MARK;2ONE MARK;2TWO MARK;2THREE MARK;2FOUR MARK;2TOP MARK;2MIDDLE MARK;2BOTTOM MARK;2FIRST MARK
2SECOND MARK;2THIRD MARK;2FOURTH MARK;2HEAVEN MARK;2EARTH MARK;2MAN MARK;BOPOMOFO LETTER BU;2ZI;2JI;2GU;2EE;2ENN;2OO
2ONN;2IR;2ANN;2INN;2UNN;2IM;2NGG;2AINN;2AUNN;2AM;2OM;2ONG;2INNN;1FINAL LETTER P;3T;3K;3H;1LETTER GH;2LH;2ZY
1FINAL LETTER G;1LETTER GW;2KW;2OE;2AH;CJK STROKE T;2WG;2XG;2BXG;2SW;2HZZ;2HZG;2HP;2HZWG;2SZWG;2HZT;2HZZP;2HPWG;2HZW
2HZZZ;2N;2H;2S;2P;2SP;2D;2HZ;2HG;2SZ;2SWZ;2ST;2SG;2PD;2PZ;2TN;2SZZ;2SWG;2HXWG;2HZZZG;2PG;2Q
31F0:KATAKANA LETTER SMALL KU;3SI;3SU;3TO;3NU;3HA;3HI;3HU;3HE;3HO;3MU;3RA;3RI;3RU;3RE;3RO
PARENTHESIZED HANGUL KIYEOK;2NIEUN;2TIKEUT;2RIEUL;2MIEUM;2PIEUP;2SIOS;2IEUNG;2CIEUC;2CHIEUCH;2KHIEUKH;2THIEUTH
2PHIEUPH;2HIEUH;2KIYEOK A;2NIEUN A;2TIKEUT A;2RIEUL A;2MIEUM A;2PIEUP A;2SIOS A;2IEUNG A;2CIEUC A;2CHIEUCH A
2KHIEUKH A;2THIEUTH A;2PHIEUPH A;2HIEUH A;2CIEUC U;1KOREAN CHARACTER OJEON;3O HU;3220:1IDEOGRAPH ONE;2TWO;2THREE
2FOUR;2FIVE;2SIX;2SEVEN;2EIGHT;2NINE;2TEN;2MOON;2FIRE;2WATER;2WOOD;2METAL;2EARTH;2SUN;2STOCK;2HAVE;2SOCIETY;2NAME
2SPECIAL;2FINANCIAL;2CONGRATULATION;2LABOR;2REPRESENT;2CALL;2STUDY;2SUPERVISE;2ENTERPRISE;2RESOURCE;2ALLIANCE
2FESTIVAL;2REST;2SELF;2REACH;CIRCLED IDEOGRAPH QUESTION;2KINDERGARTEN;2SCHOOL;2KOTO;1NUMBER TEN ON BLACK SQUARE
2TWENTY ON BLACK SQUARE;2THIRTY ON BLACK SQUARE;2FORTY ON BLACK SQUARE;2FIFTY ON BLACK SQUARE;2SIXTY ON BLACK SQUARE
2SEVENTY ON BLACK SQUARE;2EIGHTY ON BLACK SQUARE;PARTNERSHIP SIGN;CIRCLED NUMBER TWENTY ONE;3TWO;3THREE;3FOUR;3FIVE
3SIX;3SEVEN;3EIGHT;3NINE;2THIRTY;3ONE;3TWO;3THREE;3FOUR;3FIVE;1HANGUL KIYEOK;2NIEUN;2TIKEUT;2RIEUL;2MIEUM;2PIEUP
2SIOS;2IEUNG;2CIEUC;2CHIEUCH;2KHIEUKH;2THIEUTH;2PHIEUPH;2HIEUH;2KIYEOK A;2NIEUN A;2TIKEUT A;2RIEUL A;2MIEUM A
2PIEUP A;2SIOS A;2IEUNG A;2CIEUC A;2CHIEUCH A;2KHIEUKH A;2THIEUTH A;2PHIEUPH A;2HIEUH A;1KOREAN CHARACTER CHAMKO
3JUEUI;1HANGUL IEUNG U;KOREAN STANDARD SYMBOL;CIRCLED IDEOGRAPH ONE;2TWO;2THREE;2FOUR;2FIVE;2SIX;2SEVEN;2EIGHT;2NINE
2TEN;2MOON;2FIRE;2WATER;2WOOD;2METAL;2EARTH;2SUN;2STOCK;2HAVE;2SOCIETY;2NAME;2SPECIAL;2FINANCIAL;2CONGRATULATION
2LABOR;2SECRET;2MALE;2FEMALE;2SUITABLE;2EXCELLENT;2PRINT;2ATTENTION;2ITEM;2REST;2COPY;2CORRECT;2HIGH;2CENTRE;2LOW
2LEFT;2RIGHT;2MEDICINE;2RELIGION;2STUDY;2SUPERVISE;2ENTERPRISE;2RESOURCE;2ALLIANCE;2NIGHT;1NUMBER THIRTY SIX;3SEVEN
3EIGHT;3NINE;2FORTY;3ONE;3TWO;3THREE;3FOUR;3FIVE;3SIX;3SEVEN;3EIGHT;3NINE;2FIFTY
IDEOGRAPHIC TELEGRAPH SYMBOL FOR JANUARY;4FEBRUARY;4MARCH;4APRIL;4MAY;4JUNE;4JULY;4AUGUST;4SEPTEMBER;4OCTOBER
4NOVEMBER;4DECEMBER;SQUARE HG;1ERG;1EV;LIMITED LIABILITY SIGN;CIRCLED KATAKANA A;2I;2U;2E;2O;2KA;2KI;2KU;2KE;2KO;2SA
2SI;2SU;2SE;2SO;2TA;2TI;2TU;2TE;2TO;2NA;2NI;2NU;2NE;2NO;2HA;2HI;2HU;2HE;2HO;2MA;2MI;2MU;2ME;2MO;2YA;2YU;2YO;2RA;2RI
2RU;2RE;2RO;2WA;2WI;2WE;2WO;SQUARE ERA NAME REIWA;1APAATO;1ARUHUA;1ANPEA;1AARU;1ININGU;1INTI;1UON;1ESUKUUDO;1EEKAA
1ONSU;1OOMU;1KAIRI;1KARATTO;1KARORII;1GARON;1GANMA;1GIGA;1GINII;1KYURII;1GIRUDAA;1KIRO;1KIROGURAMU;1KIROMEETORU
1KIROWATTO;1GURAMU;1GURAMUTON;1KURUZEIRO;1KUROONE;1KEESU;1KORUNA;1KOOPO;1SAIKURU;1SANTIIMU;1SIRINGU;1SENTI;1SENTO
1DAASU;1DESI;1DORU;1TON;1NANO;1NOTTO;1HAITU;1PAASENTO;1PAATU;1BAARERU;1PIASUTORU;1PIKURU;1PIKO;1BIRU;1HUARADDO
1HUIITO;1BUSSYERU;1HURAN;1HEKUTAARU;1PESO;1PENIHI;1HERUTU;1PENSU;1PEEZI;1BEETA;1POINTO;1BORUTO;1HON;1PONDO;1HOORU
1HOON;1MAIKURO;1MAIRU;1MAHHA;1MARUKU;1MANSYON;1MIKURON;1MIRI;1MIRIBAARU;1MEGA;1MEGATON;1MEETORU;1YAADO;1YAARU;1YUAN
1RITTORU;1RIRA;1RUPII;1RUUBURU;1REMU;1RENTOGEN;1WATTO;IDEOGRAPHIC TELEGRAPH SYMBOL FOR HOUR ZERO;5ONE;5TWO;5THREE
5FOUR;5FIVE;5SIX;5SEVEN;5EIGHT;5NINE;5TEN;5ELEVEN;5TWELVE;5THIRTEEN;5FOURTEEN;5FIFTEEN;5SIXTEEN;5SEVENTEEN;5EIGHTEEN
5NINETEEN;5TWENTY;6-ONE;6-TWO;6-THREE;6-FOUR;SQUARE HPA;1DA;1AU;1BAR;1OV;1PC;1DM;2SQUARED;2CUBED;1IU
1ERA NAME HEISEI;3SYOUWA;3TAISYOU;3MEIZI;1CORPORATION;1PA AMPS;1NA;1MU A;1MA;1KA;1KB;1MB;1GB;1CAL;1KCAL;1PF;1NF
1MU F;2G;1MG;1KG;1HZ;1KHZ;1MHZ;1GHZ;1THZ;1MU L;1ML;1DL;1KL;1FM;1NM;1MU M;1MM;1CM;1KM;1MM SQUARED;1CM SQUARED
1M SQUARED;1KM SQUARED;1MM CUBED;1CM CUBED;1M CUBED;1KM CUBED;1M OVER S;4SQUARED;1PA;1KPA;1MPA;1GPA;1RAD;2OVER S
4SQUARED;1PS;1NS;1MU S;1MS;1PV;1NV;1MU V;1MV;1KV;1MV MEGA;1PW;1NW;1MU W;1MW;1KW;1MW MEGA;1K OHM;1M OHM;1AM;1BQ;1CC
1CD;1C OVER KG;1CO;1DB;1GY;1HA;1HP;1IN;1KK;1KM CAPITAL;1KT;1LM;1LN;1LOG;1LX;1MB SMALL;1MIL;1MOL;1PH;1PM;1PPM;1PR;1SR
1SV;1WB;1V OVER M;1A OVER M;IDEOGRAPHIC TELEGRAPH SYMBOL FOR DAY ONE;5TWO;5THREE;5FOUR;5FIVE;5SIX;5SEVEN;5EIGHT
5NINE;5TEN;5ELEVEN;5TWELVE;5THIRTEEN;5FOURTEEN;5FIFTEEN;5SIXTEEN;5SEVENTEEN;5EIGHTEEN;5NINETEEN;5TWENTY;6-ONE;6-TWO
6-THREE;6-FOUR;6-FIVE;6-SIX;6-SEVEN;6-EIGHT;6-NINE;5THIRTY;6-ONE;SQUARE GAL;4DC0:HEXAGRAM FOR THE CREATIVE HEAVEN
3RECEPTIVE EARTH;2DIFFICULTY AT THE BEGINNING;2YOUTHFUL FOLLY;2WAITING;2CONFLICT;2THE ARMY;2HOLDING TOGETHER
2SMALL TAMING;2TREADING;2PEACE;2STANDSTILL;2FELLOWSHIP;2GREAT POSSESSION;2MODESTY;2ENTHUSIASM;2FOLLOWING
2WORK ON THE DECAYED;2APPROACH;2CONTEMPLATION;2BITING THROUGH;2GRACE;2SPLITTING APART;2RETURN;2INNOCENCE
2GREAT TAMING;2MOUTH CORNERS;2GREAT PREPONDERANCE;2THE ABYSMAL WATER;3CLINGING FIRE;2INFLUENCE;2DURATION;2RETREAT
2GREAT POWER;2PROGRESS;2DARKENING OF THE LIGHT;2THE FAMILY;2OPPOSITION;2OBSTRUCTION;2DELIVERANCE;2DECREASE;2INCREASE
2BREAKTHROUGH;2COMING TO MEET;2GATHERING TOGETHER;2PUSHING UPWARD;2OPPRESSION;2THE WELL;2REVOLUTION;2THE CAULDRON
3AROUSING THUNDER;3KEEPING STILL MOUNTAIN;2DEVELOPMENT;2THE MARRYING MAIDEN;2ABUNDANCE;2THE WANDERER;3GENTLE WIND
3JOYOUS LAKE;2DISPERSION;2LIMITATION;2INNER TRUTH;2SMALL PREPONDERANCE;2AFTER COMPLETION;2BEFORE COMPLETION"

end RiskGauge.Text.CharName
