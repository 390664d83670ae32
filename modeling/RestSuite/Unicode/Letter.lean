/-!
# Letters and numbers that came later

What version 17.0 of the standard adds to the letters and to the numbers of the other tables, which
are those of version 16.0. Ranges are written in hexadecimal: a first and a last code point, or a
single one.
-/

namespace RestSuite.Unicode

/-- The letters that version 17.0 adds. -/
def laterLetterTable : String :=
  "88F C5C CDC A7CE-A7CF A7D2 A7D4 A7F1 10940-10959 10EC5-10EC7 10EFA-10EFB 11B60-11B67
   11DB0-11DDB 16EA0-16EB8 16EBB-16ED3 16FF2-16FF6 187F8-187FF 18D09-18D1E 18D80-18DF2
   1E6C0-1E6DE 1E6E0-1E6F5 1E6FE-1E6FF 2B73A-2B73F 2CEA2-2CEAD 323B0-33479"

/-- The numbers that version 17.0 adds. -/
def laterNumberTable : String :=
  "11DE0-11DE9 16FF4-16FF6"

end RestSuite.Unicode
