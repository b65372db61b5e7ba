import Phrasebook.Text.CodePointSet

/-!
# Names that are their own normal forms

Names of a program are the same if their normal forms (NFKC) are, so two spellings may be one name.
A text is its own normal form if each of its characters passes the quick check: normalization does
not replace the character, does not join it with one before it, and does not move it. Letters with
marks such as `ö` pass, their fullwidth forms do not, and all of Basic Latin passes. The property is
that of the Unicode character database, version 14.
-/

namespace Phrasebook.Text

/-- Characters that do not pass the quick check: NFKC_Quick_Check is not Yes, or the combining class
is not zero. -/
def unstable : CodePointSet := ⟨[
    0xa0, 0xa1, 0xa8, 0xa9, 0xaa, 0xab, 0xaf, 0xb0, 0xb2, 0xb6, 0xb8, 0xbb, 0xbc, 0xbf, 0x132,
    0x134, 0x13f, 0x141, 0x149, 0x14a, 0x17f, 0x180, 0x1c4, 0x1cd, 0x1f1, 0x1f4, 0x2b0, 0x2b9,
    0x2d8, 0x2de, 0x2e0, 0x2e5, 0x300, 0x34f, 0x350, 0x370, 0x374, 0x375, 0x37a, 0x37b, 0x37e,
    0x37f, 0x384, 0x386, 0x387, 0x388, 0x3d0, 0x3d7, 0x3f0, 0x3f3, 0x3f4, 0x3f6, 0x3f9, 0x3fa,
    0x483, 0x488, 0x587, 0x588, 0x591, 0x5be, 0x5bf, 0x5c0, 0x5c1, 0x5c3, 0x5c4, 0x5c6, 0x5c7,
    0x5c8, 0x610, 0x61b, 0x64b, 0x660, 0x670, 0x671, 0x675, 0x679, 0x6d6, 0x6dd, 0x6df, 0x6e5,
    0x6e7, 0x6e9, 0x6ea, 0x6ee, 0x711, 0x712, 0x730, 0x74b, 0x7eb, 0x7f4, 0x7fd, 0x7fe, 0x816,
    0x81a, 0x81b, 0x824, 0x825, 0x828, 0x829, 0x82e, 0x859, 0x85c, 0x898, 0x8a0, 0x8ca, 0x8e2,
    0x8e3, 0x900, 0x93c, 0x93d, 0x94d, 0x94e, 0x951, 0x955, 0x958, 0x960, 0x9bc, 0x9bd, 0x9be,
    0x9bf, 0x9cd, 0x9ce, 0x9d7, 0x9d8, 0x9dc, 0x9de, 0x9df, 0x9e0, 0x9fe, 0x9ff, 0xa33, 0xa34,
    0xa36, 0xa37, 0xa3c, 0xa3d, 0xa4d, 0xa4e, 0xa59, 0xa5c, 0xa5e, 0xa5f, 0xabc, 0xabd, 0xacd,
    0xace, 0xb3c, 0xb3d, 0xb3e, 0xb3f, 0xb4d, 0xb4e, 0xb56, 0xb58, 0xb5c, 0xb5e, 0xbbe, 0xbbf,
    0xbcd, 0xbce, 0xbd7, 0xbd8, 0xc3c, 0xc3d, 0xc4d, 0xc4e, 0xc55, 0xc57, 0xcbc, 0xcbd, 0xcc2,
    0xcc3, 0xccd, 0xcce, 0xcd5, 0xcd7, 0xd3b, 0xd3d, 0xd3e, 0xd3f, 0xd4d, 0xd4e, 0xd57, 0xd58,
    0xdca, 0xdcb, 0xdcf, 0xdd0, 0xddf, 0xde0, 0xe33, 0xe34, 0xe38, 0xe3b, 0xe48, 0xe4c, 0xeb3,
    0xeb4, 0xeb8, 0xebb, 0xec8, 0xecc, 0xedc, 0xede, 0xf0c, 0xf0d, 0xf18, 0xf1a, 0xf35, 0xf36,
    0xf37, 0xf38, 0xf39, 0xf3a, 0xf43, 0xf44, 0xf4d, 0xf4e, 0xf52, 0xf53, 0xf57, 0xf58, 0xf5c,
    0xf5d, 0xf69, 0xf6a, 0xf71, 0xf7e, 0xf80, 0xf85, 0xf86, 0xf88, 0xf93, 0xf94, 0xf9d, 0xf9e,
    0xfa2, 0xfa3, 0xfa7, 0xfa8, 0xfac, 0xfad, 0xfb9, 0xfba, 0xfc6, 0xfc7, 0x102e, 0x102f, 0x1037,
    0x1038, 0x1039, 0x103b, 0x108d, 0x108e, 0x10fc, 0x10fd, 0x1161, 0x1176, 0x11a8, 0x11c3,
    0x135d, 0x1360, 0x1714, 0x1716, 0x1734, 0x1735, 0x17d2, 0x17d3, 0x17dd, 0x17de, 0x18a9,
    0x18aa, 0x1939, 0x193c, 0x1a17, 0x1a19, 0x1a60, 0x1a61, 0x1a75, 0x1a7d, 0x1a7f, 0x1a80,
    0x1ab0, 0x1abe, 0x1abf, 0x1acf, 0x1b34, 0x1b36, 0x1b44, 0x1b45, 0x1b6b, 0x1b74, 0x1baa,
    0x1bac, 0x1be6, 0x1be7, 0x1bf2, 0x1bf4, 0x1c37, 0x1c38, 0x1cd0, 0x1cd3, 0x1cd4, 0x1ce1,
    0x1ce2, 0x1ce9, 0x1ced, 0x1cee, 0x1cf4, 0x1cf5, 0x1cf8, 0x1cfa, 0x1d2c, 0x1d2f, 0x1d30,
    0x1d3b, 0x1d3c, 0x1d4e, 0x1d4f, 0x1d6b, 0x1d78, 0x1d79, 0x1d9b, 0x1e00, 0x1e9a, 0x1e9c,
    0x1f71, 0x1f72, 0x1f73, 0x1f74, 0x1f75, 0x1f76, 0x1f77, 0x1f78, 0x1f79, 0x1f7a, 0x1f7b,
    0x1f7c, 0x1f7d, 0x1f7e, 0x1fbb, 0x1fbc, 0x1fbd, 0x1fc2, 0x1fc9, 0x1fca, 0x1fcb, 0x1fcc,
    0x1fcd, 0x1fd0, 0x1fd3, 0x1fd4, 0x1fdb, 0x1fdc, 0x1fdd, 0x1fe0, 0x1fe3, 0x1fe4, 0x1feb,
    0x1fec, 0x1fed, 0x1ff0, 0x1ff9, 0x1ffa, 0x1ffb, 0x1ffc, 0x1ffd, 0x1fff, 0x2000, 0x200b,
    0x2011, 0x2012, 0x2017, 0x2018, 0x2024, 0x2027, 0x202f, 0x2030, 0x2033, 0x2035, 0x2036,
    0x2038, 0x203c, 0x203d, 0x203e, 0x203f, 0x2047, 0x204a, 0x2057, 0x2058, 0x205f, 0x2060,
    0x2070, 0x2072, 0x2074, 0x208f, 0x2090, 0x209d, 0x20a8, 0x20a9, 0x20d0, 0x20dd, 0x20e1,
    0x20e2, 0x20e5, 0x20f1, 0x2100, 0x2104, 0x2105, 0x2108, 0x2109, 0x2114, 0x2115, 0x2117,
    0x2119, 0x211e, 0x2120, 0x2123, 0x2124, 0x2125, 0x2126, 0x2127, 0x2128, 0x2129, 0x212a,
    0x212e, 0x212f, 0x2132, 0x2133, 0x213a, 0x213b, 0x2141, 0x2145, 0x214a, 0x2150, 0x2180,
    0x2189, 0x218a, 0x222c, 0x222e, 0x222f, 0x2231, 0x2329, 0x232b, 0x2460, 0x24eb, 0x2a0c,
    0x2a0d, 0x2a74, 0x2a77, 0x2adc, 0x2add, 0x2c7c, 0x2c7e, 0x2cef, 0x2cf2, 0x2d6f, 0x2d70,
    0x2d7f, 0x2d80, 0x2de0, 0x2e00, 0x2e9f, 0x2ea0, 0x2ef3, 0x2ef4, 0x2f00, 0x2fd6, 0x3000,
    0x3001, 0x302a, 0x3030, 0x3036, 0x3037, 0x3038, 0x303b, 0x3099, 0x309d, 0x309f, 0x30a0,
    0x30ff, 0x3100, 0x3131, 0x318f, 0x3192, 0x31a0, 0x3200, 0x321f, 0x3220, 0x3248, 0x3250,
    0x327f, 0x3280, 0x3400, 0xa66f, 0xa670, 0xa674, 0xa67e, 0xa69c, 0xa6a0, 0xa6f0, 0xa6f2,
    0xa770, 0xa771, 0xa7f2, 0xa7f5, 0xa7f8, 0xa7fa, 0xa806, 0xa807, 0xa82c, 0xa82d, 0xa8c4,
    0xa8c5, 0xa8e0, 0xa8f2, 0xa92b, 0xa92e, 0xa953, 0xa954, 0xa9b3, 0xa9b4, 0xa9c0, 0xa9c1,
    0xaab0, 0xaab1, 0xaab2, 0xaab5, 0xaab7, 0xaab9, 0xaabe, 0xaac0, 0xaac1, 0xaac2, 0xaaf6,
    0xaaf7, 0xab5c, 0xab60, 0xab69, 0xab6a, 0xabed, 0xabee, 0xf900, 0xfa0e, 0xfa10, 0xfa11,
    0xfa12, 0xfa13, 0xfa15, 0xfa1f, 0xfa20, 0xfa21, 0xfa22, 0xfa23, 0xfa25, 0xfa27, 0xfa2a,
    0xfa6e, 0xfa70, 0xfada, 0xfb00, 0xfb07, 0xfb13, 0xfb18, 0xfb1d, 0xfb37, 0xfb38, 0xfb3d,
    0xfb3e, 0xfb3f, 0xfb40, 0xfb42, 0xfb43, 0xfb45, 0xfb46, 0xfbb2, 0xfbd3, 0xfd3e, 0xfd50,
    0xfd90, 0xfd92, 0xfdc8, 0xfdf0, 0xfdfd, 0xfe10, 0xfe1a, 0xfe20, 0xfe45, 0xfe47, 0xfe53,
    0xfe54, 0xfe67, 0xfe68, 0xfe6c, 0xfe70, 0xfe73, 0xfe74, 0xfe75, 0xfe76, 0xfefd, 0xff01,
    0xffbf, 0xffc2, 0xffc8, 0xffca, 0xffd0, 0xffd2, 0xffd8, 0xffda, 0xffdd, 0xffe0, 0xffe7,
    0xffe8, 0xffef, 0x101fd, 0x101fe, 0x102e0, 0x102e1, 0x10376, 0x1037b, 0x10781, 0x10786,
    0x10787, 0x107b1, 0x107b2, 0x107bb, 0x10a0d, 0x10a0e, 0x10a0f, 0x10a10, 0x10a38, 0x10a3b,
    0x10a3f, 0x10a40, 0x10ae5, 0x10ae7, 0x10d24, 0x10d28, 0x10eab, 0x10ead, 0x10f46, 0x10f51,
    0x10f82, 0x10f86, 0x11046, 0x11047, 0x11070, 0x11071, 0x1107f, 0x11080, 0x110b9, 0x110bb,
    0x11100, 0x11103, 0x11127, 0x11128, 0x11133, 0x11135, 0x11173, 0x11174, 0x111c0, 0x111c1,
    0x111ca, 0x111cb, 0x11235, 0x11237, 0x112e9, 0x112eb, 0x1133b, 0x1133d, 0x1133e, 0x1133f,
    0x1134d, 0x1134e, 0x11357, 0x11358, 0x11366, 0x1136d, 0x11370, 0x11375, 0x11442, 0x11443,
    0x11446, 0x11447, 0x1145e, 0x1145f, 0x114b0, 0x114b1, 0x114ba, 0x114bb, 0x114bd, 0x114be,
    0x114c2, 0x114c4, 0x115af, 0x115b0, 0x115bf, 0x115c1, 0x1163f, 0x11640, 0x116b6, 0x116b8,
    0x1172b, 0x1172c, 0x11839, 0x1183b, 0x11930, 0x11931, 0x1193d, 0x1193f, 0x11943, 0x11944,
    0x119e0, 0x119e1, 0x11a34, 0x11a35, 0x11a47, 0x11a48, 0x11a99, 0x11a9a, 0x11c3f, 0x11c40,
    0x11d42, 0x11d43, 0x11d44, 0x11d46, 0x11d97, 0x11d98, 0x16af0, 0x16af5, 0x16b30, 0x16b37,
    0x16ff0, 0x16ff2, 0x1bc9e, 0x1bc9f, 0x1d15e, 0x1d16a, 0x1d16d, 0x1d173, 0x1d17b, 0x1d183,
    0x1d185, 0x1d18c, 0x1d1aa, 0x1d1ae, 0x1d1bb, 0x1d1c1, 0x1d242, 0x1d245, 0x1d400, 0x1d455,
    0x1d456, 0x1d49d, 0x1d49e, 0x1d4a0, 0x1d4a2, 0x1d4a3, 0x1d4a5, 0x1d4a7, 0x1d4a9, 0x1d4ad,
    0x1d4ae, 0x1d4ba, 0x1d4bb, 0x1d4bc, 0x1d4bd, 0x1d4c4, 0x1d4c5, 0x1d506, 0x1d507, 0x1d50b,
    0x1d50d, 0x1d515, 0x1d516, 0x1d51d, 0x1d51e, 0x1d53a, 0x1d53b, 0x1d53f, 0x1d540, 0x1d545,
    0x1d546, 0x1d547, 0x1d54a, 0x1d551, 0x1d552, 0x1d6a6, 0x1d6a8, 0x1d7cc, 0x1d7ce, 0x1d800,
    0x1e000, 0x1e007, 0x1e008, 0x1e019, 0x1e01b, 0x1e022, 0x1e023, 0x1e025, 0x1e026, 0x1e02b,
    0x1e130, 0x1e137, 0x1e2ae, 0x1e2af, 0x1e2ec, 0x1e2f0, 0x1e8d0, 0x1e8d7, 0x1e944, 0x1e94b,
    0x1ee00, 0x1ee04, 0x1ee05, 0x1ee20, 0x1ee21, 0x1ee23, 0x1ee24, 0x1ee25, 0x1ee27, 0x1ee28,
    0x1ee29, 0x1ee33, 0x1ee34, 0x1ee38, 0x1ee39, 0x1ee3a, 0x1ee3b, 0x1ee3c, 0x1ee42, 0x1ee43,
    0x1ee47, 0x1ee48, 0x1ee49, 0x1ee4a, 0x1ee4b, 0x1ee4c, 0x1ee4d, 0x1ee50, 0x1ee51, 0x1ee53,
    0x1ee54, 0x1ee55, 0x1ee57, 0x1ee58, 0x1ee59, 0x1ee5a, 0x1ee5b, 0x1ee5c, 0x1ee5d, 0x1ee5e,
    0x1ee5f, 0x1ee60, 0x1ee61, 0x1ee63, 0x1ee64, 0x1ee65, 0x1ee67, 0x1ee6b, 0x1ee6c, 0x1ee73,
    0x1ee74, 0x1ee78, 0x1ee79, 0x1ee7d, 0x1ee7e, 0x1ee7f, 0x1ee80, 0x1ee8a, 0x1ee8b, 0x1ee9c,
    0x1eea1, 0x1eea4, 0x1eea5, 0x1eeaa, 0x1eeab, 0x1eebc, 0x1f100, 0x1f10b, 0x1f110, 0x1f12f,
    0x1f130, 0x1f150, 0x1f16a, 0x1f16d, 0x1f190, 0x1f191, 0x1f200, 0x1f203, 0x1f210, 0x1f23c,
    0x1f240, 0x1f249, 0x1f250, 0x1f252, 0x1fbf0, 0x1fbfa, 0x2f800, 0x2fa1e]⟩

/-- Whether a text is its own normal form by the quick check. -/
def isStable (text : List Char) : Bool := text.all (!unstable.contains ·)

end Phrasebook.Text
