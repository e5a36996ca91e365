import Turnstile.Text.CodeSet

/-!
# Scripts

The code points of some writing systems, by the Unicode property Script as of Unicode 15.
-/

set_option autoImplicit false

namespace Turnstile.Text

/-- The script Arabic. -/
def arabicScript : CodeSet where
  changes := [
  0x600, 0x605, 0x606, 0x60c, 0x60d, 0x61b, 0x61c, 0x61f, 0x620, 0x640,
  0x641, 0x64b, 0x656, 0x670, 0x671, 0x6dd, 0x6de, 0x700, 0x750, 0x780, 0x870, 0x88f,
  0x890, 0x892, 0x898, 0x8e2, 0x8e3, 0x900, 0xfb50, 0xfbc3, 0xfbd3, 0xfd3e, 0xfd40,
  0xfd90, 0xfd92, 0xfdc8, 0xfdcf, 0xfdd0, 0xfdf0, 0xfe00, 0xfe70, 0xfe75, 0xfe76, 0xfefd,
  0x10e60, 0x10e7f, 0x10efd, 0x10f00, 0x1ee00, 0x1ee04, 0x1ee05, 0x1ee20, 0x1ee21,
  0x1ee23, 0x1ee24, 0x1ee25, 0x1ee27, 0x1ee28, 0x1ee29, 0x1ee33, 0x1ee34, 0x1ee38,
  0x1ee39, 0x1ee3a, 0x1ee3b, 0x1ee3c, 0x1ee42, 0x1ee43, 0x1ee47, 0x1ee48, 0x1ee49,
  0x1ee4a, 0x1ee4b, 0x1ee4c, 0x1ee4d, 0x1ee50, 0x1ee51, 0x1ee53, 0x1ee54, 0x1ee55,
  0x1ee57, 0x1ee58, 0x1ee59, 0x1ee5a, 0x1ee5b, 0x1ee5c, 0x1ee5d, 0x1ee5e, 0x1ee5f,
  0x1ee60, 0x1ee61, 0x1ee63, 0x1ee64, 0x1ee65, 0x1ee67, 0x1ee6b, 0x1ee6c, 0x1ee73,
  0x1ee74, 0x1ee78, 0x1ee79, 0x1ee7d, 0x1ee7e, 0x1ee7f, 0x1ee80, 0x1ee8a, 0x1ee8b,
  0x1ee9c, 0x1eea1, 0x1eea4, 0x1eea5, 0x1eeaa, 0x1eeab, 0x1eebc, 0x1eef0, 0x1eef2]

/-- The script Cyrillic. -/
def cyrillicScript : CodeSet where
  changes := [
  0x400, 0x485, 0x487, 0x530, 0x1c80, 0x1c89, 0x1d2b, 0x1d2c, 0x1d78,
  0x1d79, 0x2de0, 0x2e00, 0xa640, 0xa6a0, 0xfe2e, 0xfe30, 0x1e030, 0x1e06e,
  0x1e08f, 0x1e090]

/-- The script Devanagari. -/
def devanagariScript : CodeSet where
  changes := [
  0x900, 0x951, 0x955, 0x964, 0x966, 0x980, 0xa8e0, 0xa900, 0x11b00, 0x11b0a]

/-- The script Greek. -/
def greekScript : CodeSet where
  changes := [
  0x370, 0x374, 0x375, 0x378, 0x37a, 0x37e, 0x37f, 0x380, 0x384, 0x385,
  0x386, 0x387, 0x388, 0x38b, 0x38c, 0x38d, 0x38e, 0x3a2, 0x3a3, 0x3e2, 0x3f0, 0x400,
  0x1d26, 0x1d2b, 0x1d5d, 0x1d62, 0x1d66, 0x1d6b, 0x1dbf, 0x1dc0, 0x1f00, 0x1f16, 0x1f18,
  0x1f1e, 0x1f20, 0x1f46, 0x1f48, 0x1f4e, 0x1f50, 0x1f58, 0x1f59, 0x1f5a, 0x1f5b, 0x1f5c,
  0x1f5d, 0x1f5e, 0x1f5f, 0x1f7e, 0x1f80, 0x1fb5, 0x1fb6, 0x1fc5, 0x1fc6, 0x1fd4, 0x1fd6,
  0x1fdc, 0x1fdd, 0x1ff0, 0x1ff2, 0x1ff5, 0x1ff6, 0x1fff, 0x2126, 0x2127, 0xab65, 0xab66,
  0x10140, 0x1018f, 0x101a0, 0x101a1, 0x1d200, 0x1d246]

/-- The script Han. -/
def hanScript : CodeSet where
  changes := [
  0x2e80, 0x2e9a, 0x2e9b, 0x2ef4, 0x2f00, 0x2fd6, 0x3005, 0x3006, 0x3007,
  0x3008, 0x3021, 0x302a, 0x3038, 0x303c, 0x3400, 0x4dc0, 0x4e00, 0xa000, 0xf900, 0xfa6e,
  0xfa70, 0xfada, 0x16fe2, 0x16fe4, 0x16ff0, 0x16ff2, 0x20000, 0x2a6e0, 0x2a700, 0x2b73a,
  0x2b740, 0x2b81e, 0x2b820, 0x2cea2, 0x2ceb0, 0x2ebe1, 0x2f800, 0x2fa1e, 0x30000,
  0x3134b, 0x31350, 0x323b0]

/-- The script Hangul. -/
def hangulScript : CodeSet where
  changes := [
  0x1100, 0x1200, 0x302e, 0x3030, 0x3131, 0x318f, 0x3200, 0x321f, 0x3260,
  0x327f, 0xa960, 0xa97d, 0xac00, 0xd7a4, 0xd7b0, 0xd7c7, 0xd7cb, 0xd7fc, 0xffa0, 0xffbf,
  0xffc2, 0xffc8, 0xffca, 0xffd0, 0xffd2, 0xffd8, 0xffda, 0xffdd]

/-- The script Hebrew. -/
def hebrewScript : CodeSet where
  changes := [
  0x591, 0x5c8, 0x5d0, 0x5eb, 0x5ef, 0x5f5, 0xfb1d, 0xfb37, 0xfb38,
  0xfb3d, 0xfb3e, 0xfb3f, 0xfb40, 0xfb42, 0xfb43, 0xfb45, 0xfb46, 0xfb50]

/-- The script Hiragana. -/
def hiraganaScript : CodeSet where
  changes := [
  0x3041, 0x3097, 0x309d, 0x30a0, 0x1b001, 0x1b120, 0x1b132, 0x1b133, 0x1b150,
  0x1b153, 0x1f200, 0x1f201]

/-- The script Katakana. -/
def katakanaScript : CodeSet where
  changes := [
  0x30a1, 0x30fb, 0x30fd, 0x3100, 0x31f0, 0x3200, 0x32d0, 0x32ff, 0x3300,
  0x3358, 0xff66, 0xff70, 0xff71, 0xff9e, 0x1aff0, 0x1aff4, 0x1aff5, 0x1affc, 0x1affd,
  0x1afff, 0x1b000, 0x1b001, 0x1b120, 0x1b123, 0x1b155, 0x1b156, 0x1b164, 0x1b168]

/-- The script Latin. -/
def latinScript : CodeSet where
  changes := [
  0x41, 0x5b, 0x61, 0x7b, 0xaa, 0xab, 0xba, 0xbb, 0xc0, 0xd7, 0xd8, 0xf7,
  0xf8, 0x2b9, 0x2e0, 0x2e5, 0x1d00, 0x1d26, 0x1d2c, 0x1d5d, 0x1d62, 0x1d66, 0x1d6b,
  0x1d78, 0x1d79, 0x1dbf, 0x1e00, 0x1f00, 0x2071, 0x2072, 0x207f, 0x2080, 0x2090, 0x209d,
  0x212a, 0x212c, 0x2132, 0x2133, 0x214e, 0x214f, 0x2160, 0x2189, 0x2c60, 0x2c80, 0xa722,
  0xa788, 0xa78b, 0xa7cb, 0xa7d0, 0xa7d2, 0xa7d3, 0xa7d4, 0xa7d5, 0xa7da, 0xa7f2, 0xa800,
  0xab30, 0xab5b, 0xab5c, 0xab65, 0xab66, 0xab6a, 0xfb00, 0xfb07, 0xff21, 0xff3b, 0xff41,
  0xff5b, 0x10780, 0x10786, 0x10787, 0x107b1, 0x107b2, 0x107bb, 0x1df00, 0x1df1f,
  0x1df25, 0x1df2b]

/-- The script Thai. -/
def thaiScript : CodeSet where
  changes := [
  0xe01, 0xe3b, 0xe40, 0xe5c]

/-- The scripts by name. -/
def scripts : List (String × CodeSet) := [
  ("Arabic", arabicScript),
  ("Cyrillic", cyrillicScript),
  ("Devanagari", devanagariScript),
  ("Greek", greekScript),
  ("Han", hanScript),
  ("Hangul", hangulScript),
  ("Hebrew", hebrewScript),
  ("Hiragana", hiraganaScript),
  ("Katakana", katakanaScript),
  ("Latin", latinScript),
  ("Thai", thaiScript)]

end Turnstile.Text
