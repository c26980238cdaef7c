/-!
# `Moderation.Html.Entity.CapitalMToZ`: entities with names in capital letters from M to Z

The characters that the named references of HTML stand for, by their code points.
-/

set_option autoImplicit false

namespace Moderation.Html.Entity

/-- Entities with names that begin with capital letters from M to Z. -/
def capitalMToZ : List (String × List Nat) := [
  ("Map", [0x2905]), ("Mcy", [0x41c]), ("MediumSpace", [0x205f]), ("Mellintrf", [0x2133]),
  ("Mfr", [0x1d510]), ("MinusPlus", [0x2213]), ("Mopf", [0x1d544]), ("Mscr", [0x2133]),
  ("Mu", [0x39c]), ("NJcy", [0x40a]), ("Nacute", [0x143]), ("Ncaron", [0x147]),
  ("Ncedil", [0x145]), ("Ncy", [0x41d]), ("NegativeMediumSpace", [0x200b]),
  ("NegativeThickSpace", [0x200b]), ("NegativeThinSpace", [0x200b]),
  ("NegativeVeryThinSpace", [0x200b]), ("NestedGreaterGreater", [0x226b]),
  ("NestedLessLess", [0x226a]), ("NewLine", [0xa]), ("Nfr", [0x1d511]), ("NoBreak", [0x2060]),
  ("NonBreakingSpace", [0xa0]), ("Nopf", [0x2115]), ("Not", [0x2aec]), ("NotCongruent", [0x2262]),
  ("NotCupCap", [0x226d]), ("NotDoubleVerticalBar", [0x2226]), ("NotElement", [0x2209]),
  ("NotEqual", [0x2260]), ("NotEqualTilde", [0x2242, 0x338]), ("NotExists", [0x2204]),
  ("NotGreater", [0x226f]), ("NotGreaterEqual", [0x2271]),
  ("NotGreaterFullEqual", [0x2267, 0x338]), ("NotGreaterGreater", [0x226b, 0x338]),
  ("NotGreaterLess", [0x2279]), ("NotGreaterSlantEqual", [0x2a7e, 0x338]),
  ("NotGreaterTilde", [0x2275]), ("NotHumpDownHump", [0x224e, 0x338]),
  ("NotHumpEqual", [0x224f, 0x338]), ("NotLeftTriangle", [0x22ea]),
  ("NotLeftTriangleBar", [0x29cf, 0x338]), ("NotLeftTriangleEqual", [0x22ec]),
  ("NotLess", [0x226e]), ("NotLessEqual", [0x2270]), ("NotLessGreater", [0x2278]),
  ("NotLessLess", [0x226a, 0x338]), ("NotLessSlantEqual", [0x2a7d, 0x338]),
  ("NotLessTilde", [0x2274]), ("NotNestedGreaterGreater", [0x2aa2, 0x338]),
  ("NotNestedLessLess", [0x2aa1, 0x338]), ("NotPrecedes", [0x2280]),
  ("NotPrecedesEqual", [0x2aaf, 0x338]), ("NotPrecedesSlantEqual", [0x22e0]),
  ("NotReverseElement", [0x220c]), ("NotRightTriangle", [0x22eb]),
  ("NotRightTriangleBar", [0x29d0, 0x338]), ("NotRightTriangleEqual", [0x22ed]),
  ("NotSquareSubset", [0x228f, 0x338]), ("NotSquareSubsetEqual", [0x22e2]),
  ("NotSquareSuperset", [0x2290, 0x338]), ("NotSquareSupersetEqual", [0x22e3]),
  ("NotSubset", [0x2282, 0x20d2]), ("NotSubsetEqual", [0x2288]), ("NotSucceeds", [0x2281]),
  ("NotSucceedsEqual", [0x2ab0, 0x338]), ("NotSucceedsSlantEqual", [0x22e1]),
  ("NotSucceedsTilde", [0x227f, 0x338]), ("NotSuperset", [0x2283, 0x20d2]),
  ("NotSupersetEqual", [0x2289]), ("NotTilde", [0x2241]), ("NotTildeEqual", [0x2244]),
  ("NotTildeFullEqual", [0x2247]), ("NotTildeTilde", [0x2249]), ("NotVerticalBar", [0x2224]),
  ("Nscr", [0x1d4a9]), ("Ntilde", [0xd1]), ("Nu", [0x39d]), ("OElig", [0x152]), ("Oacute", [0xd3]),
  ("Ocirc", [0xd4]), ("Ocy", [0x41e]), ("Odblac", [0x150]), ("Ofr", [0x1d512]), ("Ograve", [0xd2]),
  ("Omacr", [0x14c]), ("Omega", [0x3a9]), ("Omicron", [0x39f]), ("Oopf", [0x1d546]),
  ("OpenCurlyDoubleQuote", [0x201c]), ("OpenCurlyQuote", [0x2018]), ("Or", [0x2a54]),
  ("Oscr", [0x1d4aa]), ("Oslash", [0xd8]), ("Otilde", [0xd5]), ("Otimes", [0x2a37]),
  ("Ouml", [0xd6]), ("OverBar", [0x203e]), ("OverBrace", [0x23de]), ("OverBracket", [0x23b4]),
  ("OverParenthesis", [0x23dc]), ("PartialD", [0x2202]), ("Pcy", [0x41f]), ("Pfr", [0x1d513]),
  ("Phi", [0x3a6]), ("Pi", [0x3a0]), ("PlusMinus", [0xb1]), ("Poincareplane", [0x210c]),
  ("Popf", [0x2119]), ("Pr", [0x2abb]), ("Precedes", [0x227a]), ("PrecedesEqual", [0x2aaf]),
  ("PrecedesSlantEqual", [0x227c]), ("PrecedesTilde", [0x227e]), ("Prime", [0x2033]),
  ("Product", [0x220f]), ("Proportion", [0x2237]), ("Proportional", [0x221d]), ("Pscr", [0x1d4ab]),
  ("Psi", [0x3a8]), ("QUOT", [0x22]), ("Qfr", [0x1d514]), ("Qopf", [0x211a]), ("Qscr", [0x1d4ac]),
  ("RBarr", [0x2910]), ("REG", [0xae]), ("Racute", [0x154]), ("Rang", [0x27eb]),
  ("Rarr", [0x21a0]), ("Rarrtl", [0x2916]), ("Rcaron", [0x158]), ("Rcedil", [0x156]),
  ("Rcy", [0x420]), ("Re", [0x211c]), ("ReverseElement", [0x220b]),
  ("ReverseEquilibrium", [0x21cb]), ("ReverseUpEquilibrium", [0x296f]), ("Rfr", [0x211c]),
  ("Rho", [0x3a1]), ("RightAngleBracket", [0x27e9]), ("RightArrow", [0x2192]),
  ("RightArrowBar", [0x21e5]), ("RightArrowLeftArrow", [0x21c4]), ("RightCeiling", [0x2309]),
  ("RightDoubleBracket", [0x27e7]), ("RightDownTeeVector", [0x295d]),
  ("RightDownVector", [0x21c2]), ("RightDownVectorBar", [0x2955]), ("RightFloor", [0x230b]),
  ("RightTee", [0x22a2]), ("RightTeeArrow", [0x21a6]), ("RightTeeVector", [0x295b]),
  ("RightTriangle", [0x22b3]), ("RightTriangleBar", [0x29d0]), ("RightTriangleEqual", [0x22b5]),
  ("RightUpDownVector", [0x294f]), ("RightUpTeeVector", [0x295c]), ("RightUpVector", [0x21be]),
  ("RightUpVectorBar", [0x2954]), ("RightVector", [0x21c0]), ("RightVectorBar", [0x2953]),
  ("Rightarrow", [0x21d2]), ("Ropf", [0x211d]), ("RoundImplies", [0x2970]),
  ("Rrightarrow", [0x21db]), ("Rscr", [0x211b]), ("Rsh", [0x21b1]), ("RuleDelayed", [0x29f4]),
  ("SHCHcy", [0x429]), ("SHcy", [0x428]), ("SOFTcy", [0x42c]), ("Sacute", [0x15a]),
  ("Sc", [0x2abc]), ("Scaron", [0x160]), ("Scedil", [0x15e]), ("Scirc", [0x15c]), ("Scy", [0x421]),
  ("Sfr", [0x1d516]), ("ShortDownArrow", [0x2193]), ("ShortLeftArrow", [0x2190]),
  ("ShortRightArrow", [0x2192]), ("ShortUpArrow", [0x2191]), ("Sigma", [0x3a3]),
  ("SmallCircle", [0x2218]), ("Sopf", [0x1d54a]), ("Sqrt", [0x221a]), ("Square", [0x25a1]),
  ("SquareIntersection", [0x2293]), ("SquareSubset", [0x228f]), ("SquareSubsetEqual", [0x2291]),
  ("SquareSuperset", [0x2290]), ("SquareSupersetEqual", [0x2292]), ("SquareUnion", [0x2294]),
  ("Sscr", [0x1d4ae]), ("Star", [0x22c6]), ("Sub", [0x22d0]), ("Subset", [0x22d0]),
  ("SubsetEqual", [0x2286]), ("Succeeds", [0x227b]), ("SucceedsEqual", [0x2ab0]),
  ("SucceedsSlantEqual", [0x227d]), ("SucceedsTilde", [0x227f]), ("SuchThat", [0x220b]),
  ("Sum", [0x2211]), ("Sup", [0x22d1]), ("Superset", [0x2283]), ("SupersetEqual", [0x2287]),
  ("Supset", [0x22d1]), ("THORN", [0xde]), ("TRADE", [0x2122]), ("TSHcy", [0x40b]),
  ("TScy", [0x426]), ("Tab", [0x9]), ("Tau", [0x3a4]), ("Tcaron", [0x164]), ("Tcedil", [0x162]),
  ("Tcy", [0x422]), ("Tfr", [0x1d517]), ("Therefore", [0x2234]), ("Theta", [0x398]),
  ("ThickSpace", [0x205f, 0x200a]), ("ThinSpace", [0x2009]), ("Tilde", [0x223c]),
  ("TildeEqual", [0x2243]), ("TildeFullEqual", [0x2245]), ("TildeTilde", [0x2248]),
  ("Topf", [0x1d54b]), ("TripleDot", [0x20db]), ("Tscr", [0x1d4af]), ("Tstrok", [0x166]),
  ("Uacute", [0xda]), ("Uarr", [0x219f]), ("Uarrocir", [0x2949]), ("Ubrcy", [0x40e]),
  ("Ubreve", [0x16c]), ("Ucirc", [0xdb]), ("Ucy", [0x423]), ("Udblac", [0x170]),
  ("Ufr", [0x1d518]), ("Ugrave", [0xd9]), ("Umacr", [0x16a]), ("UnderBar", [0x5f]),
  ("UnderBrace", [0x23df]), ("UnderBracket", [0x23b5]), ("UnderParenthesis", [0x23dd]),
  ("Union", [0x22c3]), ("UnionPlus", [0x228e]), ("Uogon", [0x172]), ("Uopf", [0x1d54c]),
  ("UpArrow", [0x2191]), ("UpArrowBar", [0x2912]), ("UpArrowDownArrow", [0x21c5]),
  ("UpDownArrow", [0x2195]), ("UpEquilibrium", [0x296e]), ("UpTee", [0x22a5]),
  ("UpTeeArrow", [0x21a5]), ("Uparrow", [0x21d1]), ("Updownarrow", [0x21d5]),
  ("UpperLeftArrow", [0x2196]), ("UpperRightArrow", [0x2197]), ("Upsi", [0x3d2]),
  ("Upsilon", [0x3a5]), ("Uring", [0x16e]), ("Uscr", [0x1d4b0]), ("Utilde", [0x168]),
  ("Uuml", [0xdc]), ("VDash", [0x22ab]), ("Vbar", [0x2aeb]), ("Vcy", [0x412]), ("Vdash", [0x22a9]),
  ("Vdashl", [0x2ae6]), ("Vee", [0x22c1]), ("Verbar", [0x2016]), ("Vert", [0x2016]),
  ("VerticalBar", [0x2223]), ("VerticalLine", [0x7c]), ("VerticalSeparator", [0x2758]),
  ("VerticalTilde", [0x2240]), ("VeryThinSpace", [0x200a]), ("Vfr", [0x1d519]),
  ("Vopf", [0x1d54d]), ("Vscr", [0x1d4b1]), ("Vvdash", [0x22aa]), ("Wcirc", [0x174]),
  ("Wedge", [0x22c0]), ("Wfr", [0x1d51a]), ("Wopf", [0x1d54e]), ("Wscr", [0x1d4b2]),
  ("Xfr", [0x1d51b]), ("Xi", [0x39e]), ("Xopf", [0x1d54f]), ("Xscr", [0x1d4b3]), ("YAcy", [0x42f]),
  ("YIcy", [0x407]), ("YUcy", [0x42e]), ("Yacute", [0xdd]), ("Ycirc", [0x176]), ("Ycy", [0x42b]),
  ("Yfr", [0x1d51c]), ("Yopf", [0x1d550]), ("Yscr", [0x1d4b4]), ("Yuml", [0x178]),
  ("ZHcy", [0x416]), ("Zacute", [0x179]), ("Zcaron", [0x17d]), ("Zcy", [0x417]), ("Zdot", [0x17b]),
  ("ZeroWidthSpace", [0x200b]), ("Zeta", [0x396]), ("Zfr", [0x2128]), ("Zopf", [0x2124]),
  ("Zscr", [0x1d4b5])]

end Moderation.Html.Entity
