import DocSite.Text.CodePage.Cyrillic
import DocSite.Text.CodePage.Dos
import DocSite.Text.CodePage.Ebcdic
import DocSite.Text.CodePage.Iso8859
import DocSite.Text.CodePage.Mac
import DocSite.Text.CodePage.Windows
import DocSite.Text.Encoding.Escaped
import DocSite.Text.Encoding.Wide
import DocSite.Text.Lower
import DocSite.Text.MultiByte.Iso2022
import DocSite.Text.Split

/-! The encodings that files may have, and the names they go by. -/
namespace DocSite.Text
set_option autoImplicit false

/-- The encodings of several bytes a character. -/
inductive MultiByteFamily where
  | big5
  | big5HongKong
  /-- The planes of JIS X 0213 in the extended Unix code, before or since their revision. -/
  | eucJis (revised : Bool)
  | eucJp
  | eucKr
  | gb18030
  | gb2312
  | gbk
  | hz
  | iso2022 (family : MultiByte.IsoFamily)
  | johab
  | page932
  | page949
  | page950
  | shiftJis
  /-- The planes of JIS X 0213 shifted, before or since their revision. -/
  | shiftedJis (revised : Bool)
deriving DecidableEq, Repr, Inhabited

/-- The encodings that files may have. -/
inductive Encoding where
  | utf8
  /-- UTF-8 with a mark in front. -/
  | markedUtf8
  | utf7
  | ascii
  | utf16 (order : ByteOrder)
  /-- UTF-16 whose order a mark in front tells. -/
  | markedUtf16
  | utf32 (order : ByteOrder)
  /-- UTF-32 whose order a mark in front tells. -/
  | markedUtf32
  /-- One byte a character. -/
  | page (page : CodePage)
  /-- Several bytes a character. -/
  | multiByte (family : MultiByteFamily)
  /-- Characters and escapes. -/
  | escaped (style : EscapeStyle)
  /-- Characters beyond ASCII as distances behind all others. -/
  | punycode
  /-- The encoding of no text at all. -/
  | nothing
deriving DecidableEq, Repr, Inhabited

namespace Encoding

/-- The name that stands for the encoding of the surroundings. -/
def localName : String := "locale"

/-- Lowercase letters, digits and dots of a name, with one underscore for every run of other
characters between them. -/
def canonicalName (s : String) : String :=
  let parts := pieces (fun c => !((c.toNat < 128 && c.isAlphanum) || c == '.')) s.toList
  join "_" ((parts.filter (!·.isEmpty)).map fun part => lowercase (String.ofList part))

/-- A name with underscores for its dots. -/
def undotted (name : String) : String :=
  String.ofList (name.toList.map fun c => if c == '.' then '_' else c)

/-- The encodings by their own names, with the other names they go by. The encoding of domain names
rests on tables of its own and is not among them. -/
def known : List (String × Encoding × List String) := [
  ("utf_8", .utf8, ["u8", "utf", "utf8", "utf8_ucs2", "utf8_ucs4", "cp65001"]),
  ("utf_8_sig", .markedUtf8, []),
  ("ascii", .ascii, ["646", "ansi_x3.4_1968", "ansi_x3_4_1968", "ansi_x3.4_1986", "cp367",
    "csascii", "ibm367", "iso646_us", "iso_646.irv_1991", "iso_ir_6", "us", "us_ascii"]),
  ("latin_1", .page .identity, ["8859", "cp819", "csisolatin1", "ibm819", "iso8859", "iso8859_1",
    "iso_8859_1", "iso_8859_1_1987", "iso_ir_100", "l1", "latin", "latin1"]),
  ("utf_16", .markedUtf16, ["u16", "utf16"]),
  ("utf_16_le", .utf16 .little, ["unicodelittleunmarked", "utf_16le"]),
  ("utf_16_be", .utf16 .big, ["unicodebigunmarked", "utf_16be"]),
  ("utf_32", .markedUtf32, ["u32", "utf32"]),
  ("utf_32_le", .utf32 .little, ["utf_32le"]),
  ("utf_32_be", .utf32 .big, ["utf_32be"]),
  ("utf_7", .utf7, ["u7", "utf7", "unicode_1_1_utf_7"]),
  ("unicode_escape", .escaped .all, []),
  ("raw_unicode_escape", .escaped .numbersOnly, []),
  ("charmap", .page .identity, []),
  ("punycode", .punycode, []),
  ("undefined", .nothing, []),
  ("iso8859_2", .page .iso8859_2, ["csisolatin2", "iso_8859_2", "iso_8859_2_1987", "iso_ir_101",
    "l2", "latin2"]),
  ("iso8859_3", .page .iso8859_3, ["csisolatin3", "iso_8859_3", "iso_8859_3_1988", "iso_ir_109",
    "l3", "latin3"]),
  ("iso8859_4", .page .iso8859_4, ["csisolatin4", "iso_8859_4", "iso_8859_4_1988", "iso_ir_110",
    "l4", "latin4"]),
  ("iso8859_5", .page .iso8859_5, ["csisolatincyrillic", "cyrillic", "iso_8859_5",
    "iso_8859_5_1988", "iso_ir_144"]),
  ("iso8859_6", .page .iso8859_6, ["arabic", "asmo_708", "csisolatinarabic", "ecma_114",
    "iso_8859_6", "iso_8859_6_1987", "iso_ir_127"]),
  ("iso8859_7", .page .iso8859_7, ["csisolatingreek", "ecma_118", "elot_928", "greek", "greek8",
    "iso_8859_7", "iso_8859_7_1987", "iso_ir_126"]),
  ("iso8859_8", .page .iso8859_8, ["csisolatinhebrew", "hebrew", "iso_8859_8", "iso_8859_8_1988",
    "iso_ir_138"]),
  ("iso8859_9", .page .iso8859_9, ["csisolatin5", "iso_8859_9", "iso_8859_9_1989", "iso_ir_148",
    "l5", "latin5"]),
  ("iso8859_10", .page .iso8859_10, ["csisolatin6", "iso_8859_10", "iso_8859_10_1992",
    "iso_ir_157", "l6", "latin6"]),
  ("iso8859_11", .page .iso8859_11, ["thai", "iso_8859_11", "iso_8859_11_2001"]),
  ("iso8859_13", .page .iso8859_13, ["iso_8859_13", "l7", "latin7"]),
  ("iso8859_14", .page .iso8859_14, ["iso_8859_14", "iso_8859_14_1998", "iso_celtic",
    "iso_ir_199", "l8", "latin8"]),
  ("iso8859_15", .page .iso8859_15, ["iso_8859_15", "l9", "latin9"]),
  ("iso8859_16", .page .iso8859_16, ["iso_8859_16", "iso_8859_16_2001", "iso_ir_226", "l10",
    "latin10"]),
  ("tis_620", .page .tis620, ["tis620", "tis_620_0", "tis_620_2529_0", "tis_620_2529_1",
    "iso_ir_166"]),
  ("cp874", .page .windows874, []),
  ("cp1250", .page .windows1250, ["1250", "windows_1250"]),
  ("cp1251", .page .windows1251, ["1251", "windows_1251"]),
  ("cp1252", .page .windows1252, ["1252", "windows_1252"]),
  ("cp1253", .page .windows1253, ["1253", "windows_1253"]),
  ("cp1254", .page .windows1254, ["1254", "windows_1254"]),
  ("cp1255", .page .windows1255, ["1255", "windows_1255"]),
  ("cp1256", .page .windows1256, ["1256", "windows_1256"]),
  ("cp1257", .page .windows1257, ["1257", "windows_1257"]),
  ("cp1258", .page .windows1258, ["1258", "windows_1258"]),
  ("palmos", .page .palmos, []),
  ("cp437", .page .ibm437, ["437", "cspc8codepage437", "ibm437"]),
  ("cp720", .page .ibm720, []),
  ("cp737", .page .ibm737, []),
  ("cp775", .page .ibm775, ["775", "cspc775baltic", "ibm775"]),
  ("cp850", .page .ibm850, ["850", "cspc850multilingual", "ibm850"]),
  ("cp852", .page .ibm852, ["852", "cspcp852", "ibm852"]),
  ("cp855", .page .ibm855, ["855", "csibm855", "ibm855"]),
  ("cp856", .page .ibm856, []),
  ("cp857", .page .ibm857, ["857", "csibm857", "ibm857"]),
  ("cp858", .page .ibm858, ["858", "csibm858", "ibm858"]),
  ("cp860", .page .ibm860, ["860", "csibm860", "ibm860"]),
  ("cp861", .page .ibm861, ["861", "cp_is", "csibm861", "ibm861"]),
  ("cp862", .page .ibm862, ["862", "cspc862latinhebrew", "ibm862"]),
  ("cp863", .page .ibm863, ["863", "csibm863", "ibm863"]),
  ("cp864", .page .ibm864, ["864", "csibm864", "ibm864"]),
  ("cp865", .page .ibm865, ["865", "csibm865", "ibm865"]),
  ("cp866", .page .ibm866, ["866", "csibm866", "ibm866"]),
  ("cp869", .page .ibm869, ["869", "cp_gr", "csibm869", "ibm869"]),
  ("cp1006", .page .ibm1006, []),
  ("cp1125", .page .ibm1125, ["1125", "ibm1125", "cp866u", "ruscii"]),
  ("koi8_r", .page .koi8R, ["cskoi8r"]),
  ("koi8_t", .page .koi8T, []),
  ("koi8_u", .page .koi8U, []),
  ("kz1048", .page .kz1048, ["kz_1048", "rk1048", "strk1048_2002"]),
  ("ptcp154", .page .ptcp154, ["csptcp154", "pt154", "cp154", "cyrillic_asian"]),
  ("mac_arabic", .page .macArabic, []),
  ("mac_croatian", .page .macCroatian, []),
  ("mac_cyrillic", .page .macCyrillic, ["maccyrillic"]),
  ("mac_farsi", .page .macFarsi, []),
  ("mac_greek", .page .macGreek, ["macgreek"]),
  ("mac_iceland", .page .macIceland, ["maciceland"]),
  ("mac_latin2", .page .macLatin2, ["maccentraleurope", "mac_centeuro", "maclatin2"]),
  ("mac_roman", .page .macRoman, ["macintosh", "macroman"]),
  ("mac_romanian", .page .macRomanian, []),
  ("mac_turkish", .page .macTurkish, ["macturkish"]),
  ("hp_roman8", .page .hpRoman8, ["roman8", "r8", "cp1051", "ibm1051"]),
  ("cp037", .page .ibm037, ["037", "csibm037", "ebcdic_cp_ca", "ebcdic_cp_nl", "ebcdic_cp_us",
    "ebcdic_cp_wt", "ibm037", "ibm039"]),
  ("cp273", .page .ibm273, ["273", "ibm273", "csibm273"]),
  ("cp424", .page .ibm424, ["424", "csibm424", "ebcdic_cp_he", "ibm424"]),
  ("cp500", .page .ibm500, ["500", "csibm500", "ebcdic_cp_be", "ebcdic_cp_ch", "ibm500"]),
  ("cp875", .page .ibm875, []),
  ("cp1026", .page .ibm1026, ["1026", "csibm1026", "ibm1026"]),
  ("cp1140", .page .ibm1140, ["1140", "ibm1140"]),
  ("big5", .multiByte .big5, ["big5_tw", "csbig5", "x_mac_trad_chinese"]),
  ("big5hkscs", .multiByte .big5HongKong, ["big5_hkscs", "hkscs"]),
  ("euc_jis_2004", .multiByte (.eucJis true), ["jisx0213", "eucjis2004", "euc_jis2004"]),
  ("euc_jisx0213", .multiByte (.eucJis false), ["eucjisx0213"]),
  ("euc_jp", .multiByte .eucJp, ["eucjp", "ujis", "u_jis"]),
  ("euc_kr", .multiByte .eucKr, ["euckr", "korean", "ksc5601", "ks_c_5601", "ks_c_5601_1987",
    "ksx1001", "ks_x_1001", "x_mac_korean"]),
  ("gb18030", .multiByte .gb18030, ["gb18030_2000"]),
  ("gb2312", .multiByte .gb2312, ["chinese", "csiso58gb231280", "euc_cn", "euccn", "eucgb2312_cn",
    "gb2312_1980", "gb2312_80", "iso_ir_58", "x_mac_simp_chinese"]),
  ("gbk", .multiByte .gbk, ["936", "cp936", "ms936"]),
  ("hz", .multiByte .hz, ["hzgb", "hz_gb", "hz_gb_2312"]),
  ("iso2022_jp", .multiByte (.iso2022 .japanese), ["csiso2022jp", "iso2022jp", "iso_2022_jp"]),
  ("iso2022_jp_1", .multiByte (.iso2022 .japanese1), ["iso2022jp_1", "iso_2022_jp_1"]),
  ("iso2022_jp_2", .multiByte (.iso2022 .japanese2), ["iso2022jp_2", "iso_2022_jp_2"]),
  ("iso2022_jp_2004", .multiByte (.iso2022 .japanese2004), ["iso_2022_jp_2004",
    "iso2022jp_2004"]),
  ("iso2022_jp_3", .multiByte (.iso2022 .japanese3), ["iso2022jp_3", "iso_2022_jp_3"]),
  ("iso2022_jp_ext", .multiByte (.iso2022 .japaneseExtended), ["iso2022jp_ext",
    "iso_2022_jp_ext"]),
  ("iso2022_kr", .multiByte (.iso2022 .korean), ["csiso2022kr", "iso2022kr", "iso_2022_kr"]),
  ("johab", .multiByte .johab, ["cp1361", "ms1361"]),
  ("cp932", .multiByte .page932, ["932", "ms932", "mskanji", "ms_kanji"]),
  ("cp949", .multiByte .page949, ["949", "ms949", "uhc"]),
  ("cp950", .multiByte .page950, ["950", "ms950"]),
  ("shift_jis", .multiByte .shiftJis, ["csshiftjis", "shiftjis", "sjis", "s_jis",
    "x_mac_japanese"]),
  ("shift_jis_2004", .multiByte (.shiftedJis true), ["shiftjis2004", "sjis_2004", "s_jis_2004"]),
  ("shift_jisx0213", .multiByte (.shiftedJis false), ["shiftjisx0213", "sjisx0213",
    "s_jisx0213"])]

/-- The encoding that goes by another name than its own. -/
def ofOtherName? (name : String) : Option Encoding :=
  (known.find? fun p => p.2.2.contains name).map (·.2.1)

/-- The encoding of a name. Dots may stand for underscores in another name, not in an own one. -/
def ofName? (s : String) : Option Encoding :=
  if s == localName then some .utf8
  else
    let name := canonicalName s
    (ofOtherName? name).orElse fun _ =>
    (ofOtherName? (undotted name)).orElse fun _ =>
    known.lookup name |>.map (·.1)

end Encoding
end DocSite.Text
