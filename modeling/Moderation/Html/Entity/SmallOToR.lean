/-!
# `Moderation.Html.Entity.SmallOToR`: entities with names in small letters from o to r

The characters that the named references of HTML stand for, by their code points.
-/

set_option autoImplicit false

namespace Moderation.Html.Entity

/-- Entities with names that begin with small letters from o to r. -/
def smallOToR : List (String × List Nat) := [
  ("oS", [0x24c8]), ("oacute", [0xf3]), ("oast", [0x229b]), ("ocir", [0x229a]), ("ocirc", [0xf4]),
  ("ocy", [0x43e]), ("odash", [0x229d]), ("odblac", [0x151]), ("odiv", [0x2a38]),
  ("odot", [0x2299]), ("odsold", [0x29bc]), ("oelig", [0x153]), ("ofcir", [0x29bf]),
  ("ofr", [0x1d52c]), ("ogon", [0x2db]), ("ograve", [0xf2]), ("ogt", [0x29c1]),
  ("ohbar", [0x29b5]), ("ohm", [0x3a9]), ("oint", [0x222e]), ("olarr", [0x21ba]),
  ("olcir", [0x29be]), ("olcross", [0x29bb]), ("oline", [0x203e]), ("olt", [0x29c0]),
  ("omacr", [0x14d]), ("omega", [0x3c9]), ("omicron", [0x3bf]), ("omid", [0x29b6]),
  ("ominus", [0x2296]), ("oopf", [0x1d560]), ("opar", [0x29b7]), ("operp", [0x29b9]),
  ("oplus", [0x2295]), ("or", [0x2228]), ("orarr", [0x21bb]), ("ord", [0x2a5d]),
  ("order", [0x2134]), ("orderof", [0x2134]), ("ordf", [0xaa]), ("ordm", [0xba]),
  ("origof", [0x22b6]), ("oror", [0x2a56]), ("orslope", [0x2a57]), ("orv", [0x2a5b]),
  ("oscr", [0x2134]), ("oslash", [0xf8]), ("osol", [0x2298]), ("otilde", [0xf5]),
  ("otimes", [0x2297]), ("otimesas", [0x2a36]), ("ouml", [0xf6]), ("ovbar", [0x233d]),
  ("par", [0x2225]), ("para", [0xb6]), ("parallel", [0x2225]), ("parsim", [0x2af3]),
  ("parsl", [0x2afd]), ("part", [0x2202]), ("pcy", [0x43f]), ("percnt", [0x25]),
  ("period", [0x2e]), ("permil", [0x2030]), ("perp", [0x22a5]), ("pertenk", [0x2031]),
  ("pfr", [0x1d52d]), ("phi", [0x3c6]), ("phiv", [0x3d5]), ("phmmat", [0x2133]),
  ("phone", [0x260e]), ("pi", [0x3c0]), ("pitchfork", [0x22d4]), ("piv", [0x3d6]),
  ("planck", [0x210f]), ("planckh", [0x210e]), ("plankv", [0x210f]), ("plus", [0x2b]),
  ("plusacir", [0x2a23]), ("plusb", [0x229e]), ("pluscir", [0x2a22]), ("plusdo", [0x2214]),
  ("plusdu", [0x2a25]), ("pluse", [0x2a72]), ("plusmn", [0xb1]), ("plussim", [0x2a26]),
  ("plustwo", [0x2a27]), ("pm", [0xb1]), ("pointint", [0x2a15]), ("popf", [0x1d561]),
  ("pound", [0xa3]), ("pr", [0x227a]), ("prE", [0x2ab3]), ("prap", [0x2ab7]), ("prcue", [0x227c]),
  ("pre", [0x2aaf]), ("prec", [0x227a]), ("precapprox", [0x2ab7]), ("preccurlyeq", [0x227c]),
  ("preceq", [0x2aaf]), ("precnapprox", [0x2ab9]), ("precneqq", [0x2ab5]), ("precnsim", [0x22e8]),
  ("precsim", [0x227e]), ("prime", [0x2032]), ("primes", [0x2119]), ("prnE", [0x2ab5]),
  ("prnap", [0x2ab9]), ("prnsim", [0x22e8]), ("prod", [0x220f]), ("profalar", [0x232e]),
  ("profline", [0x2312]), ("profsurf", [0x2313]), ("prop", [0x221d]), ("propto", [0x221d]),
  ("prsim", [0x227e]), ("prurel", [0x22b0]), ("pscr", [0x1d4c5]), ("psi", [0x3c8]),
  ("puncsp", [0x2008]), ("qfr", [0x1d52e]), ("qint", [0x2a0c]), ("qopf", [0x1d562]),
  ("qprime", [0x2057]), ("qscr", [0x1d4c6]), ("quaternions", [0x210d]), ("quatint", [0x2a16]),
  ("quest", [0x3f]), ("questeq", [0x225f]), ("quot", [0x22]), ("rAarr", [0x21db]),
  ("rArr", [0x21d2]), ("rAtail", [0x291c]), ("rBarr", [0x290f]), ("rHar", [0x2964]),
  ("race", [0x223d, 0x331]), ("racute", [0x155]), ("radic", [0x221a]), ("raemptyv", [0x29b3]),
  ("rang", [0x27e9]), ("rangd", [0x2992]), ("range", [0x29a5]), ("rangle", [0x27e9]),
  ("raquo", [0xbb]), ("rarr", [0x2192]), ("rarrap", [0x2975]), ("rarrb", [0x21e5]),
  ("rarrbfs", [0x2920]), ("rarrc", [0x2933]), ("rarrfs", [0x291e]), ("rarrhk", [0x21aa]),
  ("rarrlp", [0x21ac]), ("rarrpl", [0x2945]), ("rarrsim", [0x2974]), ("rarrtl", [0x21a3]),
  ("rarrw", [0x219d]), ("ratail", [0x291a]), ("ratio", [0x2236]), ("rationals", [0x211a]),
  ("rbarr", [0x290d]), ("rbbrk", [0x2773]), ("rbrace", [0x7d]), ("rbrack", [0x5d]),
  ("rbrke", [0x298c]), ("rbrksld", [0x298e]), ("rbrkslu", [0x2990]), ("rcaron", [0x159]),
  ("rcedil", [0x157]), ("rceil", [0x2309]), ("rcub", [0x7d]), ("rcy", [0x440]), ("rdca", [0x2937]),
  ("rdldhar", [0x2969]), ("rdquo", [0x201d]), ("rdquor", [0x201d]), ("rdsh", [0x21b3]),
  ("real", [0x211c]), ("realine", [0x211b]), ("realpart", [0x211c]), ("reals", [0x211d]),
  ("rect", [0x25ad]), ("reg", [0xae]), ("rfisht", [0x297d]), ("rfloor", [0x230b]),
  ("rfr", [0x1d52f]), ("rhard", [0x21c1]), ("rharu", [0x21c0]), ("rharul", [0x296c]),
  ("rho", [0x3c1]), ("rhov", [0x3f1]), ("rightarrow", [0x2192]), ("rightarrowtail", [0x21a3]),
  ("rightharpoondown", [0x21c1]), ("rightharpoonup", [0x21c0]), ("rightleftarrows", [0x21c4]),
  ("rightleftharpoons", [0x21cc]), ("rightrightarrows", [0x21c9]), ("rightsquigarrow", [0x219d]),
  ("rightthreetimes", [0x22cc]), ("ring", [0x2da]), ("risingdotseq", [0x2253]),
  ("rlarr", [0x21c4]), ("rlhar", [0x21cc]), ("rlm", [0x200f]), ("rmoust", [0x23b1]),
  ("rmoustache", [0x23b1]), ("rnmid", [0x2aee]), ("roang", [0x27ed]), ("roarr", [0x21fe]),
  ("robrk", [0x27e7]), ("ropar", [0x2986]), ("ropf", [0x1d563]), ("roplus", [0x2a2e]),
  ("rotimes", [0x2a35]), ("rpar", [0x29]), ("rpargt", [0x2994]), ("rppolint", [0x2a12]),
  ("rrarr", [0x21c9]), ("rsaquo", [0x203a]), ("rscr", [0x1d4c7]), ("rsh", [0x21b1]),
  ("rsqb", [0x5d]), ("rsquo", [0x2019]), ("rsquor", [0x2019]), ("rthree", [0x22cc]),
  ("rtimes", [0x22ca]), ("rtri", [0x25b9]), ("rtrie", [0x22b5]), ("rtrif", [0x25b8]),
  ("rtriltri", [0x29ce]), ("ruluhar", [0x2968]), ("rx", [0x211e])]

end Moderation.Html.Entity
