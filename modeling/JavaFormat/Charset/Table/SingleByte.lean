/-!
# The tables of the single-byte charsets

Each table gives the code points of the bytes from 0x80 to 0xFF, sixteen to a number and four
hexadecimal digits to each; zero where a byte has none.
-/

set_option autoImplicit false

namespace JavaFormat.Charset.Table

/-- The upper half of IBM866. -/
def ibm866 : List Nat :=
  [0x0410041104120413041404150416041704180419041A041B041C041D041E041F,
   0x0420042104220423042404250426042704280429042A042B042C042D042E042F,
   0x0430043104320433043404350436043704380439043A043B043C043D043E043F,
   0x259125922593250225242561256225562555256325512557255D255C255B2510,
   0x25142534252C251C2500253C255E255F255A25542569256625602550256C2567,
   0x2568256425652559255825522553256B256A2518250C25882584258C25902580,
   0x0440044104420443044404450446044704480449044A044B044C044D044E044F,
   0x040104510404045404070457040E045E00B0221900B7221A211600A425A000A0]

/-- The upper half of ISO-8859-10. -/
def iso8859_10 : List Nat :=
  [0x0080008100820083008400850086008700880089008A008B008C008D008E008F,
   0x0090009100920093009400950096009700980099009A009B009C009D009E009F,
   0x00A0010401120122012A0128013600A7013B011001600166017D00AD016A014A,
   0x00B0010501130123012B0129013700B7013C011101610167017E2015016B014B,
   0x010000C100C200C300C400C500C6012E010C00C9011800CB011600CD00CE00CF,
   0x00D00145014C00D300D400D500D6016800D8017200DA00DB00DC00DD00DE00DF,
   0x010100E100E200E300E400E500E6012F010D00E9011900EB011700ED00EE00EF,
   0x00F00146014D00F300F400F500F6016900F8017300FA00FB00FC00FD00FE0138]

/-- The upper half of ISO-8859-13. -/
def iso8859_13 : List Nat :=
  [0x0080008100820083008400850086008700880089008A008B008C008D008E008F,
   0x0090009100920093009400950096009700980099009A009B009C009D009E009F,
   0x00A0201D00A200A300A4201E00A600A700D800A9015600AB00AC00AD00AE00C6,
   0x00B000B100B200B3201C00B500B600B700F800B9015700BB00BC00BD00BE00E6,
   0x0104012E0100010600C400C501180112010C00C90179011601220136012A013B,
   0x01600143014500D3014C00D500D600D701720141015A016A00DC017B017D00DF,
   0x0105012F0101010700E400E501190113010D00E9017A011701230137012B013C,
   0x01610144014600F3014D00F500F600F701730142015B016B00FC017C017E2019]

/-- The upper half of ISO-8859-14. -/
def iso8859_14 : List Nat :=
  [0x0080008100820083008400850086008700880089008A008B008C008D008E008F,
   0x0090009100920093009400950096009700980099009A009B009C009D009E009F,
   0x00A01E021E0300A3010A010B1E0A00A71E8000A91E821E0B1EF200AD00AE0178,
   0x1E1E1E1F012001211E401E4100B61E561E811E571E831E601EF31E841E851E61,
   0x00C000C100C200C300C400C500C600C700C800C900CA00CB00CC00CD00CE00CF,
   0x017400D100D200D300D400D500D61E6A00D800D900DA00DB00DC00DD017600DF,
   0x00E000E100E200E300E400E500E600E700E800E900EA00EB00EC00ED00EE00EF,
   0x017500F100F200F300F400F500F61E6B00F800F900FA00FB00FC00FD017700FF]

/-- The upper half of ISO-8859-15. -/
def iso8859_15 : List Nat :=
  [0x0080008100820083008400850086008700880089008A008B008C008D008E008F,
   0x0090009100920093009400950096009700980099009A009B009C009D009E009F,
   0x00A000A100A200A320AC00A5016000A7016100A900AA00AB00AC00AD00AE00AF,
   0x00B000B100B200B3017D00B500B600B7017E00B900BA00BB01520153017800BF,
   0x00C000C100C200C300C400C500C600C700C800C900CA00CB00CC00CD00CE00CF,
   0x00D000D100D200D300D400D500D600D700D800D900DA00DB00DC00DD00DE00DF,
   0x00E000E100E200E300E400E500E600E700E800E900EA00EB00EC00ED00EE00EF,
   0x00F000F100F200F300F400F500F600F700F800F900FA00FB00FC00FD00FE00FF]

/-- The upper half of ISO-8859-16. -/
def iso8859_16 : List Nat :=
  [0x0080008100820083008400850086008700880089008A008B008C008D008E008F,
   0x0090009100920093009400950096009700980099009A009B009C009D009E009F,
   0x00A001040105014120AC201E016000A7016100A9021800AB017900AD017A017B,
   0x00B000B1010C0142017D201D00B600B7017E010D021900BB015201530178017C,
   0x00C000C100C2010200C4010600C600C700C800C900CA00CB00CC00CD00CE00CF,
   0x0110014300D200D300D4015000D6015A017000D900DA00DB00DC0118021A00DF,
   0x00E000E100E2010300E4010700E600E700E800E900EA00EB00EC00ED00EE00EF,
   0x0111014400F200F300F4015100F6015B017100F900FA00FB00FC0119021B00FF]

/-- The upper half of ISO-8859-2. -/
def iso8859_2 : List Nat :=
  [0x0080008100820083008400850086008700880089008A008B008C008D008E008F,
   0x0090009100920093009400950096009700980099009A009B009C009D009E009F,
   0x00A0010402D8014100A4013D015A00A700A80160015E0164017900AD017D017B,
   0x00B0010502DB014200B4013E015B02C700B80161015F0165017A02DD017E017C,
   0x015400C100C2010200C40139010600C7010C00C9011800CB011A00CD00CE010E,
   0x01100143014700D300D4015000D600D70158016E00DA017000DC00DD016200DF,
   0x015500E100E2010300E4013A010700E7010D00E9011900EB011B00ED00EE010F,
   0x01110144014800F300F4015100F600F70159016F00FA017100FC00FD016302D9]

/-- The upper half of ISO-8859-3. -/
def iso8859_3 : List Nat :=
  [0x0080008100820083008400850086008700880089008A008B008C008D008E008F,
   0x0090009100920093009400950096009700980099009A009B009C009D009E009F,
   0x00A0012602D800A300A40000012400A700A80130015E011E013400AD0000017B,
   0x00B0012700B200B300B400B5012500B700B80131015F011F013500BD0000017C,
   0x00C000C100C2000000C4010A010800C700C800C900CA00CB00CC00CD00CE00CF,
   0x000000D100D200D300D4012000D600D7011C00D900DA00DB00DC016C015C00DF,
   0x00E000E100E2000000E4010B010900E700E800E900EA00EB00EC00ED00EE00EF,
   0x000000F100F200F300F4012100F600F7011D00F900FA00FB00FC016D015D02D9]

/-- The upper half of ISO-8859-4. -/
def iso8859_4 : List Nat :=
  [0x0080008100820083008400850086008700880089008A008B008C008D008E008F,
   0x0090009100920093009400950096009700980099009A009B009C009D009E009F,
   0x00A001040138015600A40128013B00A700A8016001120122016600AD017D00AF,
   0x00B0010502DB015700B40129013C02C700B80161011301230167014A017E014B,
   0x010000C100C200C300C400C500C6012E010C00C9011800CB011600CD00CE012A,
   0x01100145014C013600D400D500D600D700D8017200DA00DB00DC0168016A00DF,
   0x010100E100E200E300E400E500E6012F010D00E9011900EB011700ED00EE012B,
   0x01110146014D013700F400F500F600F700F8017300FA00FB00FC0169016B02D9]

/-- The upper half of ISO-8859-5. -/
def iso8859_5 : List Nat :=
  [0x0080008100820083008400850086008700880089008A008B008C008D008E008F,
   0x0090009100920093009400950096009700980099009A009B009C009D009E009F,
   0x00A0040104020403040404050406040704080409040A040B040C00AD040E040F,
   0x0410041104120413041404150416041704180419041A041B041C041D041E041F,
   0x0420042104220423042404250426042704280429042A042B042C042D042E042F,
   0x0430043104320433043404350436043704380439043A043B043C043D043E043F,
   0x0440044104420443044404450446044704480449044A044B044C044D044E044F,
   0x2116045104520453045404550456045704580459045A045B045C00A7045E045F]

/-- The upper half of ISO-8859-6. -/
def iso8859_6 : List Nat :=
  [0x0080008100820083008400850086008700880089008A008B008C008D008E008F,
   0x0090009100920093009400950096009700980099009A009B009C009D009E009F,
   0x00A000000000000000A40000000000000000000000000000060C00AD00000000,
   0x00000000000000000000000000000000000000000000061B000000000000061F,
   0x0000062106220623062406250626062706280629062A062B062C062D062E062F,
   0x0630063106320633063406350636063706380639063A00000000000000000000,
   0x0640064106420643064406450646064706480649064A064B064C064D064E064F,
   0x0650065106520000000000000000000000000000000000000000000000000000]

/-- The upper half of ISO-8859-7. -/
def iso8859_7 : List Nat :=
  [0x0080008100820083008400850086008700880089008A008B008C008D008E008F,
   0x0090009100920093009400950096009700980099009A009B009C009D009E009F,
   0x00A02018201900A320AC20AF00A600A700A800A9037A00AB00AC00AD00002015,
   0x00B000B100B200B303840385038600B703880389038A00BB038C00BD038E038F,
   0x0390039103920393039403950396039703980399039A039B039C039D039E039F,
   0x03A003A1000003A303A403A503A603A703A803A903AA03AB03AC03AD03AE03AF,
   0x03B003B103B203B303B403B503B603B703B803B903BA03BB03BC03BD03BE03BF,
   0x03C003C103C203C303C403C503C603C703C803C903CA03CB03CC03CD03CE0000]

/-- The upper half of ISO-8859-8. -/
def iso8859_8 : List Nat :=
  [0x0080008100820083008400850086008700880089008A008B008C008D008E008F,
   0x0090009100920093009400950096009700980099009A009B009C009D009E009F,
   0x00A0000000A200A300A400A500A600A700A800A900D700AB00AC00AD00AE00AF,
   0x00B000B100B200B300B400B500B600B700B800B900F700BB00BC00BD00BE0000, 0,
   0x0000000000000000000000000000000000000000000000000000000000002017,
   0x05D005D105D205D305D405D505D605D705D805D905DA05DB05DC05DD05DE05DF,
   0x05E005E105E205E305E405E505E605E705E805E905EA00000000200E200F0000]

/-- The upper half of KOI8-R. -/
def koi8R : List Nat :=
  [0x25002502250C251025142518251C2524252C2534253C258025842588258C2590,
   0x259125922593232025A02219221A22482264226500A0232100B000B200B700F7,
   0x25502551255204512553255425552556255725582559255A255B255C255D255E,
   0x255F25602561040125622563256425652566256725682569256A256B256C00A9,
   0x044E0430043104460434043504440433044504380439043A043B043C043D043E,
   0x043F044F044004410442044304360432044C044B04370448044D04490447044A,
   0x042E0410041104260414041504240413042504180419041A041B041C041D041E,
   0x041F042F042004210422042304160412042C042B04170428042D04290427042A]

/-- The upper half of KOI8-U. -/
def koi8U : List Nat :=
  [0x25002502250C251025142518251C2524252C2534253C258025842588258C2590,
   0x259125922593232025A02219221A22482264226500A0232100B000B200B700F7,
   0x25502551255204510454255404560457255725582559255A255B0491045E255E,
   0x255F25602561040104042563040604072566256725682569256A0490040E00A9,
   0x044E0430043104460434043504440433044504380439043A043B043C043D043E,
   0x043F044F044004410442044304360432044C044B04370448044D04490447044A,
   0x042E0410041104260414041504240413042504180419041A041B041C041D041E,
   0x041F042F042004210422042304160412042C042B04170428042D04290427042A]

/-- The upper half of macintosh. -/
def macintosh : List Nat :=
  [0x00C400C500C700C900D100D600DC00E100E000E200E400E300E500E700E900E8,
   0x00EA00EB00ED00EC00EE00EF00F100F300F200F400F600F500FA00F900FB00FC,
   0x202000B000A200A300A7202200B600DF00AE00A9212200B400A8226000C600D8,
   0x221E00B12264226500A500B522022211220F03C0222B00AA00BA03A900E600F8,
   0x00BF00A100AC221A01922248220600AB00BB202600A000C000C300D501520153,
   0x20132014201C201D2018201900F725CA00FF0178204420AC2039203AFB01FB02,
   0x202100B7201A201E203000C200CA00C100CB00C800CD00CE00CF00CC00D300D4,
   0xF8FF00D200DA00DB00D9013102C602DC00AF02D802D902DA00B802DD02DB02C7]

/-- The upper half of windows-1250. -/
def windows1250 : List Nat :=
  [0x20AC0081201A0083201E2026202020210088203001602039015A0164017D0179,
   0x009020182019201C201D202220132014009821220161203A015B0165017E017A,
   0x00A002C702D8014100A4010400A600A700A800A9015E00AB00AC00AD00AE017B,
   0x00B000B102DB014200B400B500B600B700B80105015F00BB013D02DD013E017C,
   0x015400C100C2010200C40139010600C7010C00C9011800CB011A00CD00CE010E,
   0x01100143014700D300D4015000D600D70158016E00DA017000DC00DD016200DF,
   0x015500E100E2010300E4013A010700E7010D00E9011900EB011B00ED00EE010F,
   0x01110144014800F300F4015100F600F70159016F00FA017100FC00FD016302D9]

/-- The upper half of windows-1251. -/
def windows1251 : List Nat :=
  [0x04020403201A0453201E20262020202120AC203004092039040A040C040B040F,
   0x045220182019201C201D202220132014009821220459203A045A045C045B045F,
   0x00A0040E045E040800A4049000A600A7040100A9040400AB00AC00AD00AE0407,
   0x00B000B104060456049100B500B600B704512116045400BB0458040504550457,
   0x0410041104120413041404150416041704180419041A041B041C041D041E041F,
   0x0420042104220423042404250426042704280429042A042B042C042D042E042F,
   0x0430043104320433043404350436043704380439043A043B043C043D043E043F,
   0x0440044104420443044404450446044704480449044A044B044C044D044E044F]

/-- The upper half of windows-1252. -/
def windows1252 : List Nat :=
  [0x20AC0081201A0192201E20262020202102C62030016020390152008D017D008F,
   0x009020182019201C201D20222013201402DC21220161203A0153009D017E0178,
   0x00A000A100A200A300A400A500A600A700A800A900AA00AB00AC00AD00AE00AF,
   0x00B000B100B200B300B400B500B600B700B800B900BA00BB00BC00BD00BE00BF,
   0x00C000C100C200C300C400C500C600C700C800C900CA00CB00CC00CD00CE00CF,
   0x00D000D100D200D300D400D500D600D700D800D900DA00DB00DC00DD00DE00DF,
   0x00E000E100E200E300E400E500E600E700E800E900EA00EB00EC00ED00EE00EF,
   0x00F000F100F200F300F400F500F600F700F800F900FA00FB00FC00FD00FE00FF]

/-- The upper half of windows-1253. -/
def windows1253 : List Nat :=
  [0x20AC0081201A0192201E20262020202100882030008A2039008C008D008E008F,
   0x009020182019201C201D20222013201400982122009A203A009C009D009E009F,
   0x00A00385038600A300A400A500A600A700A800A9000000AB00AC00AD00AE2015,
   0x00B000B100B200B3038400B500B600B703880389038A00BB038C00BD038E038F,
   0x0390039103920393039403950396039703980399039A039B039C039D039E039F,
   0x03A003A1000003A303A403A503A603A703A803A903AA03AB03AC03AD03AE03AF,
   0x03B003B103B203B303B403B503B603B703B803B903BA03BB03BC03BD03BE03BF,
   0x03C003C103C203C303C403C503C603C703C803C903CA03CB03CC03CD03CE0000]

/-- The upper half of windows-1254. -/
def windows1254 : List Nat :=
  [0x20AC0081201A0192201E20262020202102C62030016020390152008D008E008F,
   0x009020182019201C201D20222013201402DC21220161203A0153009D009E0178,
   0x00A000A100A200A300A400A500A600A700A800A900AA00AB00AC00AD00AE00AF,
   0x00B000B100B200B300B400B500B600B700B800B900BA00BB00BC00BD00BE00BF,
   0x00C000C100C200C300C400C500C600C700C800C900CA00CB00CC00CD00CE00CF,
   0x011E00D100D200D300D400D500D600D700D800D900DA00DB00DC0130015E00DF,
   0x00E000E100E200E300E400E500E600E700E800E900EA00EB00EC00ED00EE00EF,
   0x011F00F100F200F300F400F500F600F700F800F900FA00FB00FC0131015F00FF]

/-- The upper half of windows-1255. -/
def windows1255 : List Nat :=
  [0x20AC0081201A0192201E20262020202102C62030008A2039008C008D008E008F,
   0x009020182019201C201D20222013201402DC2122009A203A009C009D009E009F,
   0x00A000A100A200A320AA00A500A600A700A800A900D700AB00AC00AD00AE00AF,
   0x00B000B100B200B300B400B500B600B700B800B900F700BB00BC00BD00BE00BF,
   0x05B005B105B205B305B405B505B605B705B805B905BA05BB05BC05BD05BE05BF,
   0x05C005C105C205C305F005F105F205F305F40000000000000000000000000000,
   0x05D005D105D205D305D405D505D605D705D805D905DA05DB05DC05DD05DE05DF,
   0x05E005E105E205E305E405E505E605E705E805E905EA00000000200E200F0000]

/-- The upper half of windows-1256. -/
def windows1256 : List Nat :=
  [0x20AC067E201A0192201E20262020202102C62030067920390152068606980688,
   0x06AF20182019201C201D20222013201406A921220691203A0153200C200D06BA,
   0x00A0060C00A200A300A400A500A600A700A800A906BE00AB00AC00AD00AE00AF,
   0x00B000B100B200B300B400B500B600B700B800B9061B00BB00BC00BD00BE061F,
   0x06C1062106220623062406250626062706280629062A062B062C062D062E062F,
   0x063006310632063306340635063600D7063706380639063A0640064106420643,
   0x00E0064400E2064506460647064800E700E800E900EA00EB0649064A00EE00EF,
   0x064B064C064D064E00F4064F065000F7065100F9065200FB00FC200E200F06D2]

/-- The upper half of windows-1257. -/
def windows1257 : List Nat :=
  [0x20AC0081201A0083201E20262020202100882030008A2039008C00A802C700B8,
   0x009020182019201C201D20222013201400982122009A203A009C00AF02DB009F,
   0x00A0000000A200A300A4000000A600A700D800A9015600AB00AC00AD00AE00C6,
   0x00B000B100B200B300B400B500B600B700F800B9015700BB00BC00BD00BE00E6,
   0x0104012E0100010600C400C501180112010C00C90179011601220136012A013B,
   0x01600143014500D3014C00D500D600D701720141015A016A00DC017B017D00DF,
   0x0105012F0101010700E400E501190113010D00E9017A011701230137012B013C,
   0x01610144014600F3014D00F500F600F701730142015B016B00FC017C017E02D9]

/-- The upper half of windows-1258. -/
def windows1258 : List Nat :=
  [0x20AC0081201A0192201E20262020202102C62030008A20390152008D008E008F,
   0x009020182019201C201D20222013201402DC2122009A203A0153009D009E0178,
   0x00A000A100A200A300A400A500A600A700A800A900AA00AB00AC00AD00AE00AF,
   0x00B000B100B200B300B400B500B600B700B800B900BA00BB00BC00BD00BE00BF,
   0x00C000C100C2010200C400C500C600C700C800C900CA00CB030000CD00CE00CF,
   0x011000D1030900D300D401A000D600D700D800D900DA00DB00DC01AF030300DF,
   0x00E000E100E2010300E400E500E600E700E800E900EA00EB030100ED00EE00EF,
   0x011100F1032300F300F401A100F600F700F800F900FA00FB00FC01B020AB00FF]

/-- The upper half of windows-874. -/
def windows874 : List Nat :=
  [0x20AC008100820083008420260086008700880089008A008B008C008D008E008F,
   0x009020182019201C201D20222013201400980099009A009B009C009D009E009F,
   0x00A00E010E020E030E040E050E060E070E080E090E0A0E0B0E0C0E0D0E0E0E0F,
   0x0E100E110E120E130E140E150E160E170E180E190E1A0E1B0E1C0E1D0E1E0E1F,
   0x0E200E210E220E230E240E250E260E270E280E290E2A0E2B0E2C0E2D0E2E0E2F,
   0x0E300E310E320E330E340E350E360E370E380E390E3A00000000000000000E3F,
   0x0E400E410E420E430E440E450E460E470E480E490E4A0E4B0E4C0E4D0E4E0E4F,
   0x0E500E510E520E530E540E550E560E570E580E590E5A0E5B0000000000000000]

/-- The upper half of x-mac-cyrillic. -/
def macCyrillic : List Nat :=
  [0x0410041104120413041404150416041704180419041A041B041C041D041E041F,
   0x0420042104220423042404250426042704280429042A042B042C042D042E042F,
   0x202000B0049000A300A7202200B6040600AE00A9212204020452226004030453,
   0x221E00B122642265045600B504910408040404540407045704090459040A045A,
   0x0458040500AC221A01922248220600AB00BB202600A0040B045B040C045C0455,
   0x20132014201C201D2018201900F7201E040E045E040F045F211604010451044F,
   0x0430043104320433043404350436043704380439043A043B043C043D043E043F,
   0x0440044104420443044404450446044704480449044A044B044C044D044E20AC]

end JavaFormat.Charset.Table
