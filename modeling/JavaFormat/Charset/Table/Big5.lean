/-!
# The table of Big5

The pointer of a pair of bytes counts 157 trail bytes to each lead byte from 0x81.
-/

set_option autoImplicit false

namespace JavaFormat.Charset.Table

/-- The code points of the table, sixteen to a number and five hexadecimal digits to each; zero
where the table has none. -/
def big5 : List Nat :=
  [0, 0, 0, 0, 0, 0, 0, 0, 0, 0, 0, 0, 0, 0, 0, 0, 0, 0, 0, 0, 0, 0, 0, 0, 0, 0, 0, 0, 0, 0, 0, 0,
   0, 0, 0, 0, 0, 0, 0, 0, 0, 0, 0, 0, 0, 0, 0, 0, 0, 0, 0, 0, 0, 0, 0, 0, 0, 0,
   0x0000000000000000000000000000000000000000000000000000000000000000000000043F004C32,
   0x04603045A6045782726704D77045B327CB104CE227CC503B95047360474404C4704C40242BF23617,
   0x2735226E8B270D204C572A3510474F045DA04C8527C6C04D0704AA4046A126B230722525A5421A63,
   0x23E0623F610664D056FB0000007D950591D28BB903DF40973427BEF05BDB21D5E05AA40362529EB0,
   0x05AD105BB705CFC0676E0859329945074610749D0387521D532369E2602103EEC258DE03AF507AFC,
   0x09F97241612890D231EA20A8A2325E0430A0848409F960942F0493008613058960974A09218079D0,
   0x07A320666006A290889D0744C07BC50678207A2C0524F09046034E6073C425DB9074C609FC7057B3,
   0x0492F0544C041312368E0581807A7227B6508B8F046AE26E880418125D9907BAE224BC09FC8224C1,
   0x224C9224CC09FC908504235BB040B409FCA044E12ADFF062C10706E09FCB00000000000000000000, 0,
   0x0000000000000000000000000000000000000000000000000000000031C0031C1031C2031C3031C4,
   0x2010C031C5200D1200CD031C6031C7200CB21FE8031C8200CA031C9031CA031CB031CC2010E031CD,
   0x031CE00100000C1001CD000C000112000C90011A000C80014C000D3001D1000D20000001EBE00000,
   0x01EC0000CA00101000E1001CE000E00025100113000E90011B000E80012B000ED001D0000EC0014D,
   0x000F3001D2000F20016B000FA001D4000F9001D6001D8001DA001DC000FC0000001EBF0000001EC1,
   0x000EA00261023DA023DB000000000000000000000000000000000000000000000000000000000000, 0, 0, 0, 0,
   0x00000000000000000000000000000000000000002A3A921145000000650A000000000004E3D06EDD,
   0x09D4E091DF0000000000277350649104F1A04F2804FA805156051740519C051E4052A1052A80533B,
   0x0534E053D1053D8056E2058F00590405907059320593405B6605B9E05B9F05C9A05E860603B06589,
   0x067FE068040686506D4E070BC0753507EA407EAC07EBA07EC707ECF07EDF07F0607F370827A082CF,
   0x0836F089C608BBE08BE208F6608F6708F6E0741107CFC07DCD0694607AC905227000000000000000,
   0x000000918C078B80915E080BC0000008D0B080F6209E700000000000809F09EC704CCD09DC909E0C,
   0x04C3E29DF62700E09E0A2A133035C10000006E9A0823E07519000000491109A6C09A8F09F9907987,
   0x2846C21DCA205D022AE604E2404E8104E8004E8704EBF04EEB04F370344C04FBD03E480500305088,
   0x0347D03493034A50518605905051DB051FC0520504E89052790529005327035C7053A903551053B0,
   0x03553053C2054230356D035720368105493054A3054B4054B9054D0054EF05518055230552803598,
   0x0553F035A5035BF055D7035C527D84055250000020C4220D152512B0559022CC6039EC2034108E46,
   0x24DB8294E504053280BE0777A22C3803A34047D52815D269F224DEA064DD20D7C20FB420CD5210F4,
   0x0648D08E7E20E9620C0B20F6422CA928256244D30000020D4629A4D280E9047F424EA722CC209AB2,
   0x03A67295F403FED03506252C7297D4278C822D4409D6E0981500000043D9260A5064B4054E322D4C,
   0x22BCA21077039FB2106F266DA26716279A0064EA2505220C4308E68221A128B4C20731000000480B,
   0x201A903FFA0587322D8D00000245C8204FC2609720F4C20D9605579040BB043BA0000004AB422A66,
   0x2109D081AA098F520D9C06379039FE2277508DC0056A10647C03E43000002A60120E0922ACF22CC9,
   0x00000210C8239C20399203A062829B0357825E49220C70565220F3122CB229720034BC06C3D24E3B,
   0x00000000002757422E8B222082A65B28CCD20E7A20C342681C07F93210CF2280322939035FB251E3,
   0x20E8C20F8D20EAA03F9320F3020D472114F20E4C0000020EAB20BA920D48210C02113D03FF922696,
   0x0643220FAD233F42763922BCE20D7E20D7F22C5122C5503A1820E98210C720F2E2A63226B5028CD2,
   0x28D9928CCA095AA054CC082C4055B90000029EC309C2609AB62775E22DEE071400816D080EC05C1C,
   0x2657208134037970535F280BD091B620EFA20E0F20E7720EFB035DD24DEB0360920CD6056AF227B5,
   0x210C920E1020E782107821148282072145520E7924E5022DA405A542101D2101E210F5210F60579C,
   0x20E1127694282CD20FB520E7B2517E0370320FB621180252D82A2BD249DA2183A241772827C05899,
   0x052680361A2573D07BB205B680480004B2C09F27049E709C1F09B8D25B742313D055FB035F205689,
   0x04E280590221BC12F878097512008604E5B04EBB0353E05C2305F5105FC4038FA0624C0653506B7A,
   0x06C3506C3A0706C0722B04E2C072AD248E907F520793B07CF907F532626A034C1000002634B08002,
   0x0808026612269510535D08864089C1278B208BA008D1D09485095780957F095E828E0F097E609875,
   0x098CE098DE099632981009C7C09E1F09EC406B6F0F90704E37200870961D06237094A2000000503B,
   0x06DFE29C7309FA603DC90888F2414E0707705CF504B20251CD0355925D300612228A3208FA7091F6,
   0x0719106719073BA232812A10703C8B2198004B10078E407402051AE2870F0400906A632A2BA04223,
   0x0860F20A6F07A2A2994728AEA097550704D053242207E093F4076D9289E309FA7077DD04EA304FF0,
   0x050BC04E2F04F1709FA80543407D8B05892058D021DB605E9205E9905FC2227120658B233F906919,
   0x06A4323C6306CFF0000007200245050738C03EDB24A1305B15074B908B8325CA42569507A9307BEC,
   0x07CC307E6C082F80859709FA90889009FAA08EB909FAB08FCF0855F099E00922109FAC28DB92143F,
   0x04071042A205A1A000000000000000098680676B042760573D00000085D62497B082BF2710D04C81,
   0x26D7405D7B26B1526FBE09FAD09FAE05B9609FAF066E707E5B06E57079CA03D88044C32325622796,
   0x0439A045360000005CD523B1A08AF905C7803D122355105D7809FB20715704558240EC21E2304C77,
   0x039780344A201A426C4108ACC04FB420239059BF0816C09856298FA05F3B20B9F00000221C12896D,
   0x04102046BB2907903F0709FB32A1B5040F8037D6046F726C460417C286B2273FF0456D038D42549A,
   0x045610451B04D8904C7B04D76045EA03FC824B0F03661044DE044BD041ED05D3E05D4805D5603DFC,
   0x0380F05DA405DB9038200383805E4205EBD05F2505F8303908039140393F0394D060D70613D05CE5,
   0x03989061B7061B9061CF039B80622C06290062E506318039F8056B103A03063E2063FB064070645A,
   0x03A4B064C005D150562109F9F03A970658603ABD065FF0665303AF20669203B220671603B42067A4,
   0x0680003B580684A0688403B7203B7103B7B06909069430725C069640699F0698503BBC069D603BDD,
   0x06A6506A7406A7106A8203BEC06A9903BF206AAB06AB506AD406AF606B8106BC106BEA06C7506CAA,
   0x03CCB06D0206D0606D2606D8103CEF06DA406DB106E1506E1806E2906E86289C006EBB06EE206EDA,
   0x09F7F06EE806EE906F2406F3403D4623F4106F8106FBE03D6A03D75071B705C9903D8A0702C03D91,
   0x07050070540706F0707F0708920325043C1035F120ED823ED7057BE26ED30713E257E00364E069A2,
   0x28BE905B7407A49258E1294D907A6507A7D259AC07ABB07AB007AC207AC3071D12648D041CA07ADA,
   0x07ADD07AEA041EF054B225C0107B0B07B5507B292530E25CFE07BA207B6F0839C25BB426C7F07BD0,
   0x0842107B9207BB825D2003DAD25C650849207BFA07C0607C3525CC107C4407C832488207CA60667D,
   0x2457807CC907CC707CE607C7407CF307CF507CCE07E670451D26E4407D5D26ED60748D07D8907DAB,
   0x0713507DB307DD2240572602907DE403D1307DF5217F907DE52836D07E1D261212615A07E6E07E92,
   0x0432B0946C07E2707F4007F4107F4707936262D0099E107F972635107FA321661200680455C23766,
   0x045032833A07FFA2648908005080080801D080280802F2A08726CC30803B0803C080612271404989,
   0x2662623DE3266E806725080A728A48081070811A058B0226F606C7F2649824FB8064E72148A08218,
   0x2185E06A5324A6524A950447A0822920B0D26A5223D7E04FF9214FD084E20836226B0A249A723530,
   0x2177323DF8082AA0691B2F994041DB0854B082D00831A20E16217B4036C12317D2355A0827B082E2,
   0x0831823E8B26DA326B0526B97235CE03DBF0831D055EC083850450B26DA5083AC083C1083D30347E,
   0x26ED406A570855A0349626E4222EEF0845825BE40847103DD3044E406AA70844A23CB507958084A8,
   0x26B9626E7726E43084DE0840F08391044A008493084E425C910424025CC0045430853405AF226E99,
   0x045270857304516067BF08616286252863B085C1270880860221582270CD2F9B20456A0862803648,
   0x218A2053F72739A0867E087712A0F8087EE22C27087B1087DA0880F056610866C068560460F08845,
   0x08846275E023DB9275E40885E0889C0465B088B4088B5063C1088C5077772770F089870898A089A6,
   0x089A9089A7089BC28A25089E72792427ABD08A9C07793091FE08A9027A5907AE927B3A23F8F04713,
   0x27B380717C08B0C08B1F254302556508B3F08B4C08B4D08AA924A7A08B9008B9B08AAF216DF04615,
   0x0884F08C9B27D5427D8F2F9D40372527D5308CD627D9827DBD08D1208D032191008CDB0705C08D11,
   0x24CC903ED008D7708DA928002210142498A03B7C281BC2710C07AE708EAD08EB608EC3092D408F19,
   0x08F2D283652841208FA5093032A29F20A5008FB30492A289DE2853D23DBB05EF82326208FF92A014,
   0x286BC28501223250398026ED7090372853C27ABE090612856C2860B090A828713090C4286E6090AE,
   0x090FD0916703AF0091A9091C407CAC2893321E890920E06C9F0924109262255B9092B928AC623C9B,
   0x28B0C255DB20D310932C0936B28AE128BEB0708F05AC328AE228AE5049650924428BEC28C3928BFF,
   0x093730945B08EBC09585095A609426095A006FF6042B92267A286D82127C23E2E049DF06C1C0967B,
   0x096960416C096A326ED5061DA096B6078F528AE0096BD053CC049A126CB82027426410290AF290E5,
   0x24AD1219152330A09731086420973604A0F0453D0458524AE90707505B410971B0975C291D509757,
   0x05B4A291EB0975F09425050D0230B7230BC097890979F097B1097BE097C0097D2097E02546C097EE,
   0x0741C29433097FF097F52941D2797A04AD109834098330984B0986603B0E2717503D51206302415C,
   0x25706098CA098B7098C8098C704AFF26D27216D3055B0098E1098E6098EC093780993924A2904B72,
   0x2985729905099F509A0C09A3B09A1009A5825725036C4290B129BD509AE009AE229B0509AF404C0E,
   0x09B1409B2D286000503409B34269A8038C32307D09B5009B4029D3E05A452186309B8E2424B09C02,
   0x09BFF09C0C29E6809DD429FB72A1922A1AB2A0E12A1232A1DF09D7E09D832A13409E0E0688809DC4,
   0x2215B2A1932A2202193B2A23309D392A0B92A2B409E9009E9509E9E09EA204D3409EAA09EAF24364,
   0x09EC103B60039E503D1D04F32037BE28C2B09F0209F0804B960942426DA209F1709F1609F390569F,
   0x0568A09F45099B82908B097F20847F09F6209F6907ADC09F8E0721604BBE24975249BB07177249F8,
   0x2434824A510739E28BDA218FA0799F2897E28E3609369093F328A44092EC09381093CB2896C244B9,
   0x0721703EEB0777207A43070D024473243F80717E217EF070A3218BE2359903EC7218852542F217F8,
   0x03722216FB21839036E121774218D125F4B03723216C00575B24A25213FE212A8213C6214B608503,
   0x236A60850308455249942716523E312555C23EFB27052044F4236EE2999D26F26067F90373303C15,
   0x03DE70586C2192206810040572373F240E12408B2410F26C21054CB0569E266B10569220FDF20BA8,
   0x20E0D093C628B130939C04EF80512B038192443604EBC204652037F04F4B04F8A2565105A68201AB,
   0x203CB039992030A204140343504F29202C028EB32027508ADA2020C04E98050CD0510D04FA204F03,
   0x24A0E23E8A04F420502E0506C0508104FCC04FE505058050FC051590515B0515D0515E06E7623595,
   0x23E3923EBF06D722188423E89051A8051C3205E0044DD204A3204922049108D7A28A9C2070E05259,
   0x052A420873052E10936E0467A0718C2438C20C20249AC210E4069D120E1D0747903EDE0749907414,
   0x074560739804B8E24ABC2408D053D0035840720F240C9055B420345054CD20BC60571D0925D096F4,
   0x09366057DD0578D0577F0363E058CB05A9928A46216FA2176F2171005A2C059B80928F05A7E05ACF,
   0x05A1225946219F32186124295036F506D050744305A2125E8305A8128BD720413093E00748C21303,
   0x071050497209408289FB093BD037A005C1E05C9E05E5E05E48219962197C23AEE05ECD05B4F21903,
   0x2190403701218A0036DD216FE036D30812A28A4721DBA23472289A805F0C05F0E21927217AB05A6B,
   0x2173B05B4408614275FD088600607E228602262B05FDB03EB8225AF225BE2908826F73061C02003E,
   0x200462261B06199061980607522C9B22D07246D42914D064712466522B6A03A2922B2223450298EA,
   0x22E78063372A45B064B606331063D1249E322D67062A422CA10643B0656B0697203BF42308E232AD,
   0x24989232AB0550D232E0218D92943F066CE23289231B303AE0041902558428B222558F216FC2555B,
   0x25425078EE231032182A23234034642320F23182242C90668E26D240666B04B93066302787021DEB,
   0x06663232D2232E10661E25872038D12383A237BC03B99237A2233FE074D003B960678F2462A068B6,
   0x0681E03BC406ABE03863237D52448706A3306A5206AC906B0521912065110689806A4C03BD706A7A,
   0x06B5723FC023C9A093A0092F228BEA28ACB092892801E289DC0946706DA506F0B249EC06D6723F7F,
   0x03D8F06E042403C05A3D06E0A0584706D24078420713B2431A24276070F10725007287072942478F,
   0x247250517924AA4205EB0747A23EF82365F24A4A2491725FE103F0603EB124ADF28C2323F35060A7,
   0x03EF3074CC0743C09387074370449F26DEA045510758303F6324CD924D0603F5807555076732A5C6,
   0x03B190746828ACC249AB2498E03AFB03DCD24A4E03EFF249C5248F3091FA057320934228AE321864,
   0x050DF25221251E707778232320770E0770F0777B246972378103A5E248F0074380749B03EBF24ABA,
   0x24AC7040C824A96261AE09307255810781E0788D07888078D2073D00795927741256E30410E0799B,
   0x08496079A506A2D23EFA07A3A079F40416E216E60413209235079F120D4C2498C2029923DBA2176E,
   0x035970556B03570036AA201D420C0D07AE205A59226F525AAF25A9C05A0D2025B078F005A2A25BC6,
   0x07AFE041F907C5D07C6D0421125BB325EBC25EA607CCD249F9217B007C8E07C7C07CAE06AB207DDC,
   0x07E0707DD307F4E262612615C27B4807D9725E820426A26B7520916067D62004E235CF057C426412,
   0x263F82496207FDD07B272082C25AE925D4307B0C25E0E099E60864509A6306A1C2343F039E2249F7,
   0x265AD09A1F265A0084802712726CD1044EA0813704402080C60810908142267B4098C326A4208262,
   0x0826526A510845326DA7086102721B05A860417F2184005B2B218A105AE4218D8086A02F9BC23D8F,
   0x0882D2742205A020886E04F4508887088BF088E6089650894D2568308954277852778428BF528BD9,
   0x28B9C289F903EAD084A3046F5046CF037F208A3D08A1C2944805F4D0922B24284065D407129070C4,
   0x2184509D6D08C9F08CE927DDC0599A077C3059F00436E036D408E2A08EA724C0908F3008F4A042F4,
   0x06C5806FBB223210489B06F7906E8B217DA09BE9036B52492F090BB090970557104906091BB09404,
   0x28A4B0406228AFC0942728C1D28C3B084E508A2B09599095A7095970959628D340744503EC2248FF,
   0x24A42243EA03EE7232250968F28EE728E6628E6503ECC249ED24A7823FEE074120746B03EFC09741,
   0x290B00684704A1D29093257DF0975D093682898928C2628B2F263BE092BA05B1108B690493C073F9,
   0x2421B0979B097710993820F2605DC128BC524AB20981F294DA092F6295D7091E5044C028B5024A67,
   0x28B64098DC28A4503F000922A04925084140993B0994D27B0603DFD0999B04B6F099AA09A5C28B65,
   0x258C806A8F09A2105AFE09A2F298F104B9029948099BC04BBD04B970937D058722130205822249B8,
   0x214E8078442271F23DB8068C503D7D094580392706150227812296B0610709C4F09C5309C7B09C35,
   0x09C1009B7F09BCF29E2D09B9F2A1F52A0FE09D2104CAE2410409E1804CB009D0C2A1B42A0ED2A0F3,
   0x2992F09DA5084BD26E1226FDF26B82085FC0453326DA426E8426DF008420085EE26E00237D726064,
   0x079E22359C236400492D249DE03D62093DB092BE09348202BF078B9092770944D04FE40344009064,
   0x2555D0783D07854078B60784B21757231C9249410369A04F7206FDA06FD90701E0701E05414241B5,
   0x057BB058F30578A09D16057D707134034AF241AC071EB26C4024F9705B28217B528A490610C05ACE,
   0x05A0B042BC244880372C04B7B289FC093BB093B8218D620F1D0847226CC021413242FA22C26243C1,
   0x0599423DB72674107DA82615B260A4249B92498B289FA092E5073E203EE9074B428B632189F03EE1,
   0x24AB306AD8073F3073FB03ED624A3E24A94217D924A66203A721424249E50744824916070A524976,
   0x09284073E60935F204FE0933128ACE28A160938628BE7255D50493528A820716B2494320CFF056A4,
   0x2061A20BEB20CB805502079C4217FA07DFE216C224A50218520452E094010370A28AC0249AD059B0,
   0x218BF218832748405AA1036E223D5B036B00925F05A7928A81218620937403CCD20AB404A960398A,
   0x050F403D6903D4C2139C07175042FB2821806E0F290E4044EB06D5727E4F0706706CAF03CD623FED,
   0x23E2D06E0206F0C03D6F203F507551036BC034C80468003EDA04871059C40926E0493E08F4128C1C,
   0x26BC005812057C8036D621452070FE2436224A7122FE3212B0223BD068B90696721398234E527BF4,
   0x236DF28A83237D6233FA24C9F06A1A236AD26CB70843E044DF044CE26D2626D5126C8226FDE06F17,
   0x271090833D2173A083ED26C8027053217DB0598905A82217B305A6105A7121905241FC0372D059EF,
   0x2173C036C70718E093900669A242A505A6E05A2B2429306A2B23EF9277362445B242CA0711D24259,
   0x289E104FB026D2805CC2244CE27E4D243BD06A0C2425621304070A607133243E903DA506CDF2F825,
   0x24A4F07E65059EB05D2F03DF305F5C24A5D217DF07DA4084260548523AFA23300202140577E208D5,
   0x2061903FE521F9E2A2B6070032915B05D700738F07CD328A592942004FC807FE7072CD0731027AF4,
   0x0733807339256F6073410734803EA927B180906C071F5248F2073E1081F603ECA0770C03ED106CA2,
   0x056FD074190741E0741F03EE203EF003EF403EFA074D303F0E03F53075420756D075720758D03F7C,
   0x075C8075DC03FC00764D03FD70767403FDC0767A24F5C071880562308980058690401D0774304039,
   0x0676104045035DB077980406A0406F05C5E077BE077CB058F207818070B90781C040A80783907847,
   0x078510786608448255350793306803079320410304109079910799908FBB07A0608FBC0416707A91,
   0x041B207ABC08279041C407ACF07ADB041CF04E2107B6207B6C07B7B07C1207C1B042600427A07C7B,
   0x07C9C0428C07CB80429407CED08F93070C020CCF07DCF07DD407DD007DFD07FAE07FB40729F04397,
   0x080200802507B390802E080310805403DCC057B4070A0080B7080E9043ED0810C0732A0810E08112,
   0x07560081140440103B3908156081590815A044130583A0817C0818404425081930442D081A5057EF,
   0x081C1081E4082540448F082A608276082CA082D8082FF044B008357096690698A08405070F508464,
   0x060E30848804504084BE084E1084F80851008538085520453B0856F08570085E0045770867208692,
   0x086B2086EF096450878B0460604617088AE088FF0892408947089912796708A2908A3808A9408AB4,
   0x08C5108CD408CF208D1C047980585F08DC3047ED04EEE08E3A055D80575408E71055F508EB004837,
   0x08ECE08EE208EE408EED08EF208FB708FC108FCA08FCC09033099C4048AD098E0092130491E09228,
   0x092580926B092B1092AE092BF092E3092EB092F3092F4092FD0934309384093AD049450495109EBF,
   0x09417053010941D0942D0943E0496A09454094790952D095A2049A7095F409633049E5067A004A24,
   0x0974004A35097B2097C20565404AE4060E8098B904B19098F1058440990E09919051B40991C09937,
   0x099420995D0996204B70099C504B9D09A3C09B0F07A8309B6909B8109BDD09BF109BF404C6D09C20,
   0x0376F21BC209D4909C3A09EFE0565009D9309DBD09DC009DFC094F608FB609E7B09EAC09EB109EBD,
   0x09EC6094DC09EE209EF109EF807AC809F4420094202B7203A00691A094C3059AC204D705840094C1,
   0x037B9205D52061520676216BA057570717320AC220ACD20BBF0546A2F83B20BCB0549E20BFB20C3B,
   0x20C5320C6520C7C060E720C8D0567A20CB520CDD20CED20D6F20DB220DC80695509C2F087A520E04,
   0x20E0E20ED720F9020F2D20E7305C2020FBC05E0B2105C2104F210760671E2107B210882109603647,
   0x210BF210D32112F2113B05364084AD212E3213752133608B812157721619217C3217C704E78070BB,
   0x2182D2196A21A2D21A4521C2A21C7021CAC21EC8062C321ED521F15071980685522045069E9036C8,
   0x2227C223D7223FA2272A228712294F082FD229672299322AD5089A522AE808FA022B0E097B822B3F,
   0x0984709ABD22C4C0000022C8822CB725BE822D0822D1222DB722D9522E4222F7422FCC2303323066,
   0x2331F233DE05FB106648066BF27A7923567235F307201249BA077D72361A2371607E8720346058B5,
   0x0670E0691823AA72765725FE223E1123EB9275FE2209A048D004AB82411928A9A242EE2430D2403B,
   0x243342439624A45205CA051D2206110599F21EA803BBE23CFF24404244D605788246740399B2472F,
   0x285E8299C903762221C308B5E28B4E099D624812248FB24A150720924AC020C780596524EA524F86,
   0x2077908EDA2502C0528F0573F07171252992541923F4A24AA7055BC254462546E26B52091D403473,
   0x2553F276322555E047182556225566257C72493F2585D05066034FB233CC060DE259030477C28948,
   0x25AAE25B8925C0621D90057A10715106FB62610227C1209056261B224F9A08B62264022644A05D5B,
   0x26BF708F36264842191C08AEA249F62648823FEF2651204BC0265BF266B52271B09465257E106195,
   0x05A272F8CD04FBB056B924521266FC04E6A249340965606D8F26CBD0361808977267992686E26411,
   0x2685E071DF268C707B42290C020A1126926091042693907A4509DF0269FA09A2626A2D0365F26469,
   0x200210798326A3426B5B05D2C23519083CF26B9D046D026CA40753B0886526DAE058B60371C2258D,
   0x2704B271CD03C542728027285092812217A2728B09330272E6249D006C390949F2745020EF808827,
   0x088F52292628473217B106EB824A2A21820039A4036B905C10079E30453F066B629CAD298A408943,
   0x277CC27858056D6040DF2160A039A12372F280E8213C5071AD08366279DD291A805A6704CB7270AF,
   0x289AB279FD27A0A27B0B27D662417A07B430797E2800906FB52A2DF06A0328318053A226E07093BF,
   0x068360975D2816F28023269B5213ED2322F2804805D8528C302808305715098232894905DAB24988,
   0x065BE069D5053D224AA523F8103C110673628090280F42812E21FA12814F28189281AF2821A28306,
   0x2832F2838A035CA28468286AA048FA063E6289560780809255289B8043F2289E7043DF289E828B46,
   0x28BD4059F828C0908F0B28FC5290EC07B51291102913C03DF72915E24ACA08FD00728F0568B294E7,
   0x295E9295B0295B829732298D1299492996A299C329A2829B0E29D5A29D9B07E9F29EF829F2304CA4,
   0x095472A293071A22A2FF04D91090122A5CB04D9C20C9C08FBE055C108FBA224B008FB924A9304509,
   0x07E7F06F5606AB104EEA034E428B2C2789D0373A08E80217F52802428B6C28B9927A3E266AF03DEB,
   0x2765523CB7256352595604E9A25E8126258056BF20E6D08E0E05B6D23E8824C9E063DE062D0217F6,
   0x2187B065300562D25C4A0541A2531103DC629D9804C7D056220561E07F4925ED80597523D4008770,
   0x04E1C20FEA20D49236BA0811709D5E08D180763B09C450764E077B9093450543208148082F705625,
   0x0813208418080BD055EA07962056430541620E9D035CE05605055F1066F1282E20362D07534055F0,
   0x055BA054970557220C4120C9605ED02514820E7622C6220EA209EAB07D5A055DE210750629D0976D,
   0x0549408CCD071F609176063FC063B9063FE0556922B4309C7222EB30519A034DF20DA7051A70544D,
   0x0551E055130766608E2D2688A075B1080B60880408786088C7081B60841C210C1044EC0730424706,
   0x05B900830B268930567B226F427D2F241A327D7326ED0272B609170211D90920823CFC2A6A920EAC,
   0x20EF90726621CA20474E24FC227FF920FEB040FA09C5D0651F22DA0048F3247E029D7C20FEC20E0A,
   0x06062275A320FED000002604821187071A307E8E09D5004E1A04E040357705B0D06CB205367036AC,
   0x039DC0537D036A5246180589A24B6E0822D0544B057AA25A95209790000003A52224650737429EAC,
   0x04D0909BED23CFE29F3004C5B24FA92959E29FDE0845C23DB6272B2267B3237200632E07D2523EF7,
   0x23E2C03A2A09008052CC03E740367A045E92048E0764005AF020EB60787A27F2E058A7040BF0567C,
   0x09B8B05D74076542A43409E8504CE1075F9037FB06119230DA243F2000000565D212A9057A724963,
   0x29E0605234270AE035AD06C4A09D7C07C5609B39057DE2176C05C53064D3294D02633527164086AD,
   0x20D2826D2224AE220D7100000051FE21F0F05D8E0970321DD109E810904C07B1F09B0205CD107BA3,
   0x062680633509AFF07BCF09B2A07C7E09B2E07C4207C8609C1507BFC09B0909F1709C1B2493E09F5A,
   0x0557305BC304FFD09E9804FF20526003E06052D10576705056059B705E12097C809DAB08F5C05469,
   0x097B409940097BA0532C061300692C053DA09C0A09D0204C3B0964106980050A6075462176D099DA,
   0x052730000009159096810915C000000915128E970637F26D2306ACA056110918E0757A06285203FC,
   0x0734F07C7025C2123CFD0000024919076D609B9D04E2A20CD4083BE088420000005C4A069C0050ED,
   0x0577A0521F05DF504ECE06C31201F204F390549C054DA0529A08D82035FE05F0C035F30000006B52,
   0x0917C09FA509B970982E098B409ABA09EA809E840717A07B140000006BFA0881807F780000005620,
   0x2A64A08E7709F530000008DD408E4F09E1C08E01062822837D08E2808E7507AD324A7707A3E078D8,
   0x06CEA08A670760728A5A09F2606CCE087D6075C32A2B2078532F84008D0C072E20737108B2D07302,
   0x074F108CEB24ABB0862F05FBA088A0044B7000002183B26E050000008A7E2251B00000060FD07667,
   0x09AD709D440936E09B8F087F5000000880F08CF70732C0972109BB0035D6072B204C0707C510994A,
   0x261590615904C0409E960617D000000575F0616F062A606239062CE03A5C061E2053AA233F506364,
   0x06802035D205D5728BC208FDA28E3900000050D921D4607906053320963820F3B0406500000077FE,
   0x0000007CC225F1A07CDA07A2D080660806307D4D07505074F2089940821A0670C08062274860805B,
   0x074F0081030772408989267CC0755326ED1087A9087CE081C80878C08A4908CAD08B430772B074F8,
   0x084DA03635069B208DA600000089A90746806DB9087C124011074E703DDB07176060A40619C03CD1,
   0x07162060770000007F7128B2D07250060E904B7E0522003C1823CC725ED7276562553121944212FE,
   0x2990326DDC270AD05CC1261AD28A0F23677200EE2684624F0E0456205B1F2634C09F5009EA62626B,
   0x030000FF0C03001030020FF0E020270FF1B0FF1A0FF1F0FF010FE3002026020250FE500FE510FE52,
   0x000B70FE540FE550FE560FE570FF5C020130FE31020140FE33025740FE340FE4F0FF080FF090FE35,
   0x0FE360FF5B0FF5D0FE370FE3803014030150FE390FE3A03010030110FE3B0FE3C0300A0300B0FE3D,
   0x0FE3E03008030090FE3F0FE400300C0300D0FE410FE420300E0300F0FE430FE440FE590FE5A0FE5B,
   0x0FE5C0FE5D0FE5E02018020190201C0201D0301D0301E02035020320FF030FF060FF0A0203B000A7,
   0x03003025CB025CF025B3025B2025CE0260602605025C7025C6025A1025A0025BD025BC032A302105,
   0x000AF0FFE30FF3F002CD0FE490FE4A0FE4D0FE4E0FE4B0FE4C0FE5F0FE600FE610FF0B0FF0D000D7,
   0x000F7000B10221A0FF1C0FF1E0FF1D0226602267022600221E02252022610FE620FE630FE640FE65,
   0x0FE660FF5E022290222A022A5022200221F022BF033D2033D10222B0222E02235022340264002642,
   0x0229502299021910219302190021920219602197021990219802225022230FF0F0FF3C022150FE68,
   0x0FF040FFE5030120FFE00FFE10FF050FF2002103021090FE690FE6A0FE6B033D50339C0339D0339E,
   0x033CE033A10338E0338F033C4000B0051590515B0515E0515D0516105163055E7074E907CCE02581,
   0x025820258302584025850258602587025880258F0258E0258D0258C0258B0258A025890253C02534,
   0x0252C025240251C025940250002502025950250C0251002514025180256D0256E025700256F02550,
   0x0255E0256A02561025E2025E3025E5025E40257102572025730FF100FF110FF120FF130FF140FF15,
   0x0FF160FF170FF180FF19021600216102162021630216402165021660216702168021690302103022,
   0x030230302403025030260302703028030290534105344053450FF210FF220FF230FF240FF250FF26,
   0x0FF270FF280FF290FF2A0FF2B0FF2C0FF2D0FF2E0FF2F0FF300FF310FF320FF330FF340FF350FF36,
   0x0FF370FF380FF390FF3A0FF410FF420FF430FF440FF450FF460FF470FF480FF490FF4A0FF4B0FF4C,
   0x0FF4D0FF4E0FF4F0FF500FF510FF520FF530FF540FF550FF560FF570FF580FF590FF5A0039100392,
   0x003930039400395003960039700398003990039A0039B0039C0039D0039E0039F003A0003A1003A3,
   0x003A4003A5003A6003A7003A8003A9003B1003B2003B3003B4003B5003B6003B7003B8003B9003BA,
   0x003BB003BC003BD003BE003BF003C0003C1003C3003C4003C5003C6003C7003C8003C90310503106,
   0x0310703108031090310A0310B0310C0310D0310E0310F03110031110311203113031140311503116,
   0x0311703118031190311A0311B0311C0311D0311E0311F03120031210312203123031240312503126,
   0x031270312803129002D9002C9002CA002C7002CB0240002401024020240302404024050240602407,
   0x02408024090240A0240B0240C0240D0240E0240F0241002411024120241302414024150241602417,
   0x02418024190241A0241B0241C0241D0241E0241F02421020AC000000000000000000000000000000, 0,
   0x0000000000000000000000000000000000004E0004E5904E0104E0304E4304E5D04E8604E8C04EBA,
   0x0513F051650516B051E005200052010529B05315053410535C053C804E0904E0B04E0804E0A04E2B,
   0x04E38051E104E4504E4804E5F04E5E04E8E04EA10514005203052FA05343053C9053E30571F058EB,
   0x05915059270597305B5005B5105B5305BF805C0F05C2205C3805C7105DDD05DE505DF105DF205DF3,
   0x05DFE05E7205EFE05F0B05F130624D04E1104E1004E0D04E2D04E3004E3904E4B05C3904E8804E91,
   0x04E9504E9204E9404EA204EC104EC004EC304EC604EC704ECD04ECA04ECB04EC4051430514105167,
   0x0516D0516E0516C05197051F6052060520705208052FB052FE052FF0531605339053480534705345,
   0x0535E05384053CB053CA053CD058EC059290592B0592A0592D05B5405C1105C2405C3A05C6F05DF4,
   0x05E7B05EFF05F1405F1505FC306208062360624B0624E0652F0658706597065A4065B9065E5066F0,
   0x067080672806B2006B6206B7906BCB06BD406BDB06C0F06C340706B0722A072360723B0724707259,
   0x0725B072AC0738B04E1904E1604E1504E1404E1804E3B04E4D04E4F04E4E04EE504ED804ED404ED5,
   0x04ED604ED704EE304EE404ED904EDE0514505144051890518A051AC051F9051FA051F80520A052A0,
   0x0529F0530505306053170531D04EDF0534A0534905361053600536F0536E053BB053EF053E4053F3,
   0x053EC053EE053E9053E8053FC053F8053F5053EB053E6053EA053F2053F1053F0053E5053ED053FB,
   0x056DB056DA059160592E05931059740597605B5505B8305C3C05DE805DE705DE605E0205E0305E73,
   0x05E7C05F0105F1805F1705FC50620A06253062540625206251065A5065E60672E0672C0672A0672B,
   0x0672D06B6306BCD06C1106C1006C3806C4106C4006C3E072AF0738407389074DC074E6075180751F,
   0x0752807529075300753107532075330758B0767D076AE076BF076EE077DB077E2077F30793A079BE,
   0x07A7407ACB04E1E04E1F04E5204E5304E6904E9904EA404EA604EA504EFF04F0904F1904F0A04F15,
   0x04F0D04F1004F1104F0F04EF204EF604EFB04EF004EF304EFD04F0104F0B05149051470514605148,
   0x05168051710518D051B00521705211052120520E05216052A3053080532105320053700537105409,
   0x0540F0540C0540A05410054010540B05404054110540D05408054030540E0540605412056E0056DE,
   0x056DD0573305730057280572D0572C0572F05729059190591A05937059380598405978059830597D,
   0x05979059820598105B5705B5805B8705B8805B8505B8905BFA05C1605C7905DDE05E0605E7605E74,
   0x05F0F05F1B05FD905FD60620E0620C0620D06210062630625B0625806536065E9065E8065EC065ED,
   0x066F2066F3067090673D06734067310673506B2106B6406B7B06C1606C5D06C5706C5906C5F06C60,
   0x06C5006C5506C6106C5B06C4D06C4E070700725F0725D0767E07AF907C7307CF807F3607F8A07FBD,
   0x08001080030800C08012080330807F080890808B0808C081E3081EA081F3081FC0820C0821B0821F,
   0x0826E082720827E0866B088400884C088630897F0962104E3204EA804F4D04F4F04F4704F5704F5E,
   0x04F3404F5B04F5504F3004F5004F5104F3D04F3A04F3804F4304F5404F3C04F4604F6304F5C04F60,
   0x04F2F04F4E04F3604F5904F5D04F4804F5A0514C0514B0514D05175051B6051B7052250522405229,
   0x0522A05228052AB052A9052AA052AC0532305373053750541D0542D0541E0543E054260544E05427,
   0x05446054430543305448054420541B054290544A054390543B054380542E0543505436054200543C,
   0x05440054310542B0541F0542C056EA056F0056E4056EB0574A05751057400574D057470574E0573E,
   0x057500574F0573B058EF0593E0599D05992059A80599E059A305999059960598D059A4059930598A,
   0x059A505B5D05B5C05B5A05B5B05B8C05B8B05B8F05C2C05C4005C4105C3F05C3E05C9005C9105C94,
   0x05C8C05DEB05E0C05E8F05E8705E8A05EF705F0405F1F05F6405F6205F7705F7905FD805FCC05FD7,
   0x05FCD05FF105FEB05FF805FEA06212062110628406297062960628006276062890626D0628A0627C,
   0x0627E0627906273062920626F062980626E06295062930629106286065390653B06538065F1066F4,
   0x0675F0674E0674F06750067510675C067560675E067490674606760067530675706B6506BCF06C42,
   0x06C5E06C9906C8106C8806C8906C8506C9B06C6A06C7A06C9006C7006C8C06C6806C9606C9206C7D,
   0x06C8306C7206C7E06C7406C8606C7606C8D06C9406C9806C82070760707C0707D070780726207261,
   0x07260072C4072C2073960752C0752B075370753807682076EF077E3079C1079C0079BF07A7607CFB,
   0x07F5508096080930809D080980809B0809A080B20826F082920828B0828D0898B089D208A0008C37,
   0x08C4608C5508C9D08D6408D7008DB308EAB08ECA08F9B08FB008FC208FC608FC508FC405DE109091,
   0x090A2090AA090A6090A309149091C6091CC096320962E096310962A0962C04E2604E5604E7304E8B,
   0x04E9B04E9E04EAB04EAC04F6F04F9D04F8D04F7304F7F04F6C04F9B04F8B04F8604F8304F7004F75,
   0x04F8804F6904F7B04F9604F7E04F8F04F9104F7A05154051520515505169051770517605178051BD,
   0x051FD0523B05238052370523A052300522E0523605241052BE052BB0535205354053530535105366,
   0x053770537805379053D6053D4053D70547305475054960547805495054800547B054770548405492,
   0x054860547C0549005471054760548C0549A05462054680548B0547D0548E056FA05783057770576A,
   0x057690576105766057640577C0591C0594905947059480594405954059BE059BB059D4059B9059AE,
   0x059D1059C6059D0059CD059CB059D3059CA059AF059B3059D2059C505B5F05B6405B6305B9705B9A,
   0x05B9805B9C05B9905B9B05C1A05C4805C4505C4605CB705CA105CB805CA905CAB05CB105CB305E18,
   0x05E1A05E1605E1505E1B05E1105E7805E9A05E9705E9C05E9505E9605EF605F2605F2705F2905F80,
   0x05F8105F7F05F7C05FDD05FE005FFD05FF505FFF0600F060140602F06035060160602A0601506021,
   0x06027060290602B0601B06216062150623F0623E062400627F062C9062CC062C4062BF062C2062B9,
   0x062D2062DB062AB062D3062D4062CB062C8062A8062BD062BC062D0062D9062C7062CD062B5062DA,
   0x062B1062D8062D6062D7062C6062AC062CE0653E065A7065BC065FA06614066130660C0660606602,
   0x0660E066000660F066150660A066070670D0670B0676D0678B06795067710679C067730677706787,
   0x0679D067970676F067700677F067890677E06790067750679A067930677C0676A0677206B2306B66,
   0x06B6706B7F06C1306C1B06CE306CE806CF306CB106CCC06CE506CB306CBD06CBE06CBC06CE206CAB,
   0x06CD506CD306CB806CC406CB906CC106CAE06CD706CC506CF106CBF06CBB06CE106CDB06CCA06CAC,
   0x06CEF06CDC06CD606CE0070950708E070920708A070990722C0722D07238072480726707269072C0,
   0x072CE072D9072D7072D0073A9073A80739F073AB073A50753D0759D075990759A07684076C2076F2,
   0x076F4077E5077FD0793E0794007941079C9079C807A7A07A7907AFA07CFE07F5407F8C07F8B08005,
   0x080BA080A5080A2080B1080A1080AB080A9080B4080AA080AF081E5081FE0820D082B30829D08299,
   0x082AD082BD0829F082B9082B1082AC082A5082AF082B8082A3082B0082BE082B70864E086710521D,
   0x0886808ECB08FCE08FD408FD1090B5090B8090B1090B6091C7091D109577095800961C096400963F,
   0x0963B0964409642096B9096E8097520975E04E9F04EAD04EAE04FE104FB504FAF04FBF04FE004FD1,
   0x04FCF04FDD04FC304FB604FD804FDF04FCA04FD704FAE04FD004FC404FC204FDA04FCE04FDE04FB7,
   0x051570519205191051A00524E052430524A0524D0524C0524B05247052C7052C9052C3052C10530D,
   0x053570537B0539A053DB054AC054C0054A8054CE054C9054B8054A6054B3054C7054C2054BD054AA,
   0x054C1054C4054C8054AF054AB054B1054BB054A9054A7054BF056FF057820578B057A0057A3057A2,
   0x057CE057AE0579305955059510594F0594E05950059DC059D8059FF059E3059E805A03059E5059EA,
   0x059DA059E605A01059FB05B6905BA305BA605BA405BA205BA505C0105C4E05C4F05C4D05C4B05CD9,
   0x05CD205DF705E1D05E2505E1F05E7D05EA005EA605EFA05F0805F2D05F6505F8805F8505F8A05F8B,
   0x05F8705F8C05F89060120601D06020060250600E060280604D06070060680606206046060430606C,
   0x0606B0606A0606406241062DC0631606309062FC062ED06301062EE062FD06307062F1062F7062EF,
   0x062EC062FE062F406311063020653F06545065AB065BD065E2066250662D06620066270662F0661F,
   0x066280663106624066F7067FF067D3067F1067D4067D0067EC067B6067AF067F5067E9067EF067C4,
   0x067D1067B4067DA067E5067B8067CF067DE067F3067B0067D9067E2067DD067D206B6A06B8306B86,
   0x06BB506BD206BD706C1F06CC906D0B06D3206D2A06D4106D2506D0C06D3106D1E06D1706D3B06D3D,
   0x06D3E06D3606D1B06CF506D3906D2706D3806D2906D2E06D3506D0E06D2B070AB070BA070B3070AC,
   0x070AF070AD070B8070AE070A407230072720726F07274072E9072E0072E1073B7073CA073BB073B2,
   0x073CD073C0073B30751A0752D0754F0754C0754E0754B075AB075A4075A5075A2075A30767807686,
   0x0768707688076C8076C6076C3076C507701076F9076F8077090770B076FE076FC07707077DC07802,
   0x078140780C0780D07946079490794807947079B9079BA079D1079D2079CB07A7F07A8107AFF07AFD,
   0x07C7D07D0207D0507D0007D0907D0707D0407D0607F3807F8E07FBF08004080100800D0801108036,
   0x080D6080E5080DA080C3080C4080CC080E1080DB080CE080DE080E4080DD081F408222082E708303,
   0x08305082E3082DB082E608304082E50830208309082D2082D7082F108301082DC082D4082D1082DE,
   0x082D3082DF082EF0830608650086790867B0867A0884D0886B08981089D408A0808A0208A0308C9E,
   0x08CA008D7408D7308DB408ECD08ECC08FF008FE608FE208FEA08FE508FED08FEB08FE408FE8090CA,
   0x090CE090C1090C30914B0914A091CD09582096500964B0964C0964D0976209769097CB097ED097F3,
   0x09801098A8098DB098DF099960999904E5804EB30500C0500D0502304FEF050260502504FF805029,
   0x05016050060503C0501F0501A050120501104FFA05000050140502804FF1050210500B0501905018,
   0x04FF304FEE0502D0502A04FFE0502B050090517C051A4051A5051A2051CD051CC051C6051CB05256,
   0x0525C052540525B0525D0532A0537F0539F0539D053DF054E8055100550105537054FC054E5054F2,
   0x05506054FA05514054E9054ED054E105509054EE054EA054E60552705507054FD0550F0570305704,
   0x057C2057D4057CB057C3058090590F05957059580595A05A1105A1805A1C05A1F05A1B05A13059EC,
   0x05A2005A2305A2905A2505A0C05A0905B6B05C5805BB005BB305BB605BB405BAE05BB505BB905BB8,
   0x05C0405C5105C5505C5005CED05CFD05CFB05CEA05CE805CF005CF605D0105CF405DEE05E2D05E2B,
   0x05EAB05EAD05EA705F3105F9205F9105F9006059060630606506050060550606D060690606F06084,
   0x0609F0609A0608D060940608C060850609606247062F306308062FF0634E0633E0632F0635506342,
   0x063460634F063490633A063500633D0632A0632B063280634D0634C065480654906599065C1065C5,
   0x06642066490664F06643066520664C0664506641066F806714067150671706821068380684806846,
   0x0685306839068420685406829068B3068170684C068510683D067F406850068400683C068430682A,
   0x0684506813068180684106B8A06B8906BB706C2306C2706C2806C2606C2406CF006D6A06D9506D88,
   0x06D8706D6606D7806D7706D5906D9306D6C06D8906D6E06D5A06D7406D6906D8C06D8A06D7906D85,
   0x06D6506D94070CA070D8070E4070D9070C8070CF0723907279072FC072F9072FD072F8072F707386,
   0x073ED07409073EE073E0073EA073DE075540755D0755C0755A07559075BE075C5075C7075B2075B3,
   0x075BD075BC075B9075C2075B80768B076B0076CA076CD076CE077290771F0772007728077E907830,
   0x07827078380781D0783407837078250782D078200781F078320795507950079600795F079560795E,
   0x0795D079570795A079E4079E3079E7079DF079E6079E9079D807A8407A8807AD907B0607B1107C89,
   0x07D2107D1707D0B07D0A07D2007D2207D1407D1007D1507D1A07D1C07D0D07D1907D1B07F3A07F5F,
   0x07F9407FC507FC108006080180801508019080170803D0803F080F108102080F008105080ED080F4,
   0x08106080F8080F308108080FD0810A080FC080EF081ED081EC08200082100822A0822B082280822C,
   0x082BB0832B08352083540834A08338083500834908335083340834F0833208339083360831708340,
   0x083310832808343086540868A086AA08693086A4086A90868C086A30869C08870088770888108882,
   0x0887D0887908A1808A1008A0E08A0C08A1508A0A08A1708A1308A1608A0F08A1108C4808C7A08C79,
   0x08CA108CA208D7708EAC08ED208ED408ECF08FB1090010900608FF70900008FFA08FF40900308FFD,
   0x0900508FF809095090E1090DD090E2091520914D0914C091D8091DD091D7091DC091D90958309662,
   0x09663096610965B0965D09664096580965E096BB098E2099AC09AA809AD809B2509B3209B3C04E7E,
   0x0507A0507D0505C05047050430504C0505A0504905065050760504E050550507505074050770504F,
   0x0500F0506F0506D0515C05195051F00526A0526F052D2052D9052D8052D5053100530F053190533F,
   0x053400533E053C3066FC055460556A05566055440555E05561055430554A05531055560554F05555,
   0x0552F05564055380552E0555C0552C05563055330554105557057080570B05709057DF058050580A,
   0x05806057E0057E4057FA0580205835057F7057F9059200596205A3605A4105A4905A6605A6A05A40,
   0x05A3C05A6205A5A05A4605A4A05B7005BC705BC505BC405BC205BBF05BC605C0905C0805C0705C60,
   0x05C5C05C5D05D0705D0605D0E05D1B05D1605D2205D1105D2905D1405D1905D2405D2705D1705DE2,
   0x05E3805E3605E3305E3705EB705EB805EB605EB505EBE05F3505F3705F5705F6C05F6905F6B05F97,
   0x05F9905F9E05F9805FA105FA005F9C0607F060A306089060A0060A8060CB060B4060E6060BD060C5,
   0x060BB060B5060DC060BC060D8060D5060C6060DF060B8060DA060C70621A0621B06248063A0063A7,
   0x0637206396063A2063A5063770636706398063AA06371063A906389063830639B0636B063A806384,
   0x0638806399063A1063AC063920638F063800637B06369063680637A0655D06556065510655906557,
   0x0555F0654F0655806555065540659C0659B065AC065CF065CB065CC065CE0665D0665A0666406668,
   0x066660665E066F9052D70671B06881068AF068A206893068B50687F06876068B1068A706897068B0,
   0x06883068C4068AD0688606885068940689D068A80689F068A10688206B3206BBA06BEB06BEC06C2B,
   0x06D8E06DBC06DF306DD906DB206DE106DCC06DE406DFB06DFA06E0506DC706DCB06DAF06DD106DAE,
   0x06DDE06DF906DB806DF706DF506DC506DD206E1A06DB506DDA06DEB06DD806DEA06DF106DEE06DE8,
   0x06DC606DC406DAA06DEC06DBF06DE6070F9071090710A070FD070EF0723D0727D072810731C0731B,
   0x07316073130731907387074050740A0740307406073FE0740D074E0074F6074F70751C0752207565,
   0x0756607562075700758F075D4075D5075B5075CA075CD0768E076D4076D2076DB077370773E0773C,
   0x07736077380773A0786B078430784E07965079680796D079FB07A9207A9507B2007B2807B1B07B2C,
   0x07B2607B1907B1E07B2E07C9207C9707C9507D4607D4307D7107D2E07D3907D3C07D4007D3007D33,
   0x07D4407D2F07D4207D3207D3107F3D07F9E07F9A07FCC07FCE07FD20801C0804A080460812F08116,
   0x081230812B08129081300812408202082350823708236082390838E0839E0839808378083A208396,
   0x083BD083AB083920838A0839308389083A0083770837B0837C08386083A70865505F6A086C7086C0,
   0x086B6086C4086B5086C6086CB086B1086AF086C9088530889E08888088AB08892088960888D0888B,
   0x089930898F08A2A08A1D08A2308A2508A3108A2D08A1F08A1B08A2208C4908C5A08CA908CAC08CAB,
   0x08CA808CAA08CA708D6708D6608DBE08DBA08EDB08EDF090190900D0901A09017090230901F0901D,
   0x09010090150901E090200900F09022090160901B09014090E8090ED090FD09157091CE091F5091E6,
   0x091E3091E7091ED091E9095890966A096750967309678096700967409676096770966C096C0096EA,
   0x096E907AE007ADF098020980309B5A09CE509E7509E7F09EA509EBB050A20508D050850509905091,
   0x0508005096050980509A06700051F105272052740527505269052DE052DD052DB0535A053A50557B,
   0x05580055A70557C0558A0559D05598055820559C055AA05594055870558B05583055B3055AE0559F,
   0x0553E055B20559A055BB055AC055B10557E05589055AB055990570D0582F0582A058340582405830,
   0x05831058210581D05820058F9058FA0596005A7705A9A05A7F05A9205A9B05AA705B7305B7105BD2,
   0x05BCC05BD305BD005C0A05C0B05C3105D4C05D5005D3405D4705DFD05E4505E3D05E4005E4305E7E,
   0x05ECA05EC105EC205EC405F3C05F6D05FA905FAA05FA8060D1060E1060B2060B6060E00611C06123,
   0x060FA06115060F0060FB060F406168060F10610E060F60610906100061120621F06249063A30638C,
   0x063CF063C0063E9063C9063C6063CD063D2063E3063D0063E1063D6063ED063EE06376063F4063EA,
   0x063DB06452063DA063F90655E0656606562065630659106590065AF0666E0667006674066760666F,
   0x066910667A0667E06677066FE066FF0671F0671D068FA068D5068E0068D8068D706905068DF068F5,
   0x068EE068E7068F9068D2068F2068E3068CB068CD0690D069120690E068C9068DA0696E068FB06B3E,
   0x06B3A06B3D06B9806B9606BBC06BEF06C2E06C2F06C2C06E2F06E3806E5406E2106E3206E6706E4A,
   0x06E2006E2506E2306E1B06E5B06E5806E2406E5606E6E06E2D06E2606E6F06E3406E4D06E3A06E2C,
   0x06E4306E1D06E3E06ECB06E8906E1906E4E06E6306E4406E7206E6906E5F071190711A0712607130,
   0x07121071360716E0711C0724C0728407280073360732507334073290743A0742A074330742207425,
   0x0743507436074340742F0741B074260742807525075260756B0756A075E2075DB075E3075D9075D8,
   0x075DE075E00767B0767C0769607693076B4076DC0774F077ED0785D0786C0786F07A0D07A0807A0B,
   0x07A0507A0007A9807A9707A9607AE507AE307B4907B5607B4607B5007B5207B5407B4D07B4B07B4F,
   0x07B5107C9F07CA507D5E07D5007D6807D5507D2B07D6E07D7207D6107D6607D6207D7007D7305584,
   0x07FD407FD50800B080520808508155081540814B081510814E08139081460813E0814C0815308174,
   0x082120821C083E908403083F80840D083E0083C50840B083C1083EF083F1083F4084570840A083F0,
   0x0840C083CC083FD083F2083CA084380840E08404083DC08407083D4083DF0865B086DF086D9086ED,
   0x086D4086DB086E4086D0086DE08857088C1088C2088B1089830899608A3B08A6008A5508A5E08A3C,
   0x08A4108A5408A5B08A5008A4608A3408A3A08A3608A5608C6108C8208CAF08CBC08CB308CBD08CC1,
   0x08CBB08CC008CB408CB708CB608CBF08CB808D8A08D8508D8108DCE08DDD08DCB08DDA08DD108DCC,
   0x08DDB08DC608EFB08EF808EFC08F9C0902E090350903109038090320903609102090F509109090FE,
   0x0916309165091CF092140921509223092090921E0920D092100920709211095940958F0958B09591,
   0x09593095920958E0968A0968E0968B0967D09685096860968D0967209684096C1096C5096C4096C6,
   0x096C7096EF096F2097CC098050980609808098E7098EA098EF098E9098F2098ED099AE099AD09EC3,
   0x09ECD09ED104E82050AD050B5050B2050B3050C5050BE050AC050B7050BB050AF050C70527F05277,
   0x0527D052DF052E6052E4052E2052E30532F055DF055E8055D3055E6055CE055DC055C7055D1055E3,
   0x055E4055EF055DA055E1055C5055C6055E5055C905712057130585E0585105858058570585A05854,
   0x0586B0584C0586D0584A05862058520584B0596705AC105AC905ACC05ABE05ABD05ABC05AB305AC2,
   0x05AB205D6905D6F05E4C05E7905EC905EC805F1205F5905FAC05FAE0611A0610F061480611F060F3,
   0x0611B060F906101061080614E0614C061440614D0613E06134061270610D06106061370622106222,
   0x064130643E0641E0642A0642D0643D0642C0640F0641C064140640D064360641606417064060656C,
   0x0659F065B0066970668906687066880669606684066980668D06703069940696D0695A0697706960,
   0x069540697506930069820694A069680696B0695E0695306979069860695D069630695B06B4706B72,
   0x06BC006BBF06BD306BFD06EA206EAF06ED306EB606EC206E9006E9D06EC706EC506EA506E9806EBC,
   0x06EBA06EAB06ED106E9606E9C06EC406ED406EAA06EA706EB40714E0715907169071640714907167,
   0x0715C0716C071660714C071650715E0714607168071560723A0725207337073450733F0733E0746F,
   0x0745A074550745F0745E074410743F074590745B0745C075760757807600075F007601075F2075F1,
   0x075FA075FF075F4075F3076DE076DF0775B0776B077660775E07763077790776A0776C0775C07765,
   0x0776807762077EE0788E078B007897078980788C078890787C07891078930787F0797A0797F07981,
   0x0842C079BD07A1C07A1A07A2007A1407A1F07A1E07A9F07AA007B7707BC007B6007B6E07B6707CB1,
   0x07CB307CB507D9307D7907D9107D8107D8F07D5B07F6E07F6907F6A07F7207FA907FA807FA408056,
   0x080580808608084081710817008178081650816E081730816B081790817A08166082050824708482,
   0x084770843D0843108475084660846B084490846C0845B0843C084350846108463084690846D08446,
   0x0865E0865C0865F086F908713087080870708700086FE086FB0870208703087060870A08859088DF,
   0x088D4088D9088DC088D8088DD088E1088CA088D5088D20899C089E308A6B08A7208A7308A6608A69,
   0x08A7008A8708A7C08A6308AA008A7108A8508A6D08A6208A6E08A6C08A7908A7B08A3E08A6808C62,
   0x08C8A08C8908CCA08CC708CC808CC408CB208CC308CC208CC508DE108DDF08DE808DEF08DF308DFA,
   0x08DEA08DE408DE608EB208F0308F0908EFE08F0A08F9F08FB20904B0904A0905309042090540903C,
   0x0905509050090470904F0904E0904D090510903E0904109112091170916C0916A09169091C909237,
   0x09257092380923D092400923E0925B0924B092640925109234092490924D09245092390923F0925A,
   0x09598096980969409695096CD096CB096C9096CA096F7096FB096F9096F609756097740977609810,
   0x09811098130980A098120980C098FC098F4098FD098FE099B3099B1099B409AE109CE909E8209F0E,
   0x09F1309F20050E7050EE050E5050D6050ED050DA050D5050CF050D1050F1050CE050E905162051F3,
   0x052830528205331053AD055FE056000561B05617055FD0561405606056090560D0560E055F705616,
   0x0561F0560805610055F60571805716058750587E05883058930588A05879058850587D058FD05925,
   0x05922059240596A0596905AE105AE605AE905AD705AD605AD805AE305B7505BDE05BE705BE105BE5,
   0x05BE605BE805BE205BE405BDF05C0D05C6205D8405D8705E5B05E6305E5505E5705E5405ED305ED6,
   0x05F0A05F4605F7005FB9061470613F0614B0617706162061630615F0615A06158061750622A06487,
   0x0645806454064A4064780645F0647A0645106467064340646D0647B06572065A1065D7065D6066A2,
   0x066A80669D0699C069A806995069C1069AE069D3069CB0699B069B7069BB069AB069B4069D0069CD,
   0x069AD069CC069A6069C3069A306B4906B4C06C3306F3306F1406EFE06F1306EF406F2906F3E06F20,
   0x06F2C06F0F06F0206F2206EFF06EEF06F0606F3106F3806F3206F2306F1506F2B06F2F06F8806F2A,
   0x06EEC06F0106EF206ECC06EF707194071990717D0718A07184071920723E07292072960734407350,
   0x07464074630746A074700746D0750407591076270760D0760B0760907613076E1076E3077840777D,
   0x0777F07761078C10789F078A7078B3078A9078A30798E0798F0798D07A2E07A3107AAA07AA907AED,
   0x07AEF07BA107B9507B8B07B7507B9707B9D07B9407B8F07BB807B8707B8407CB907CBD07CBE07DBB,
   0x07DB007D9C07DBD07DBE07DA007DCA07DB407DB207DB107DBA07DA207DBF07DB507DB807DAD07DD2,
   0x07DC707DAC07F7007FE007FE107FDF0805E0805A0808708150081800818F081880818A0817F08182,
   0x081E7081FA08207082140821E0824B084C9084BF084C6084C4084990849E084B20849C084CB084B8,
   0x084C0084D308490084BC084D1084CA0873F0871C0873B08722087250873408718087550873708729,
   0x088F308902088F4088F9088F8088FD088E80891A088EF08AA608A8C08A9E08AA308A8D08AA108A93,
   0x08AA408AAA08AA508AA808A9808A9108A9A08AA708C6A08C8D08C8C08CD308CD108CD208D6B08D99,
   0x08D9508DFC08F1408F1208F1508F1308FA309060090580905C09063090590905E090620905D0905B,
   0x09119091180911E0917509178091770917409278092800928509298092960927B092930929C092A8,
   0x0927C09291095A1095A8095A9095A3095A5095A4096990969C0969B096CC096D2097000977C09785,
   0x097F60981709818098AF098B109903099050990C09909099C109AAF09AB009AE609B4109B4209CF4,
   0x09CF609CF309EBC09F3B09F4A0510405100050FB050F5050F905102051080510905105051DC05287,
   0x05288052890528D0528A052F0053B20562E0563B05639056320563F0563405629056530564E05657,
   0x05674056360562F05630058800589F0589E058B30589C058AE058A9058A60596D05B0905AFB05B0B,
   0x05AF505B0C05B0805BEE05BEC05BE905BEB05C6405C6505D9D05D9405E6205E5F05E6105EE205EDA,
   0x05EDF05EDD05EE305EE005F4805F7105FB705FB506176061670616E0615D06155061820617C06170,
   0x0616B0617E061A706190061AB0618E061AC0619A061A406194061AE0622E064690646F064790649E,
   0x064B20648806490064B0064A50649306495064A906492064AE064AD064AB0649A064AC06499064A2,
   0x064B3065750657706578066AE066AB066B4066B106A2306A1F069E806A0106A1E06A19069FD06A21,
   0x06A1306A0A069F306A0206A05069ED06A1106B5006B4E06BA406BC506BC606F3F06F7C06F8406F51,
   0x06F6606F5406F8606F6D06F5B06F7806F6E06F8E06F7A06F7006F6406F9706F5806ED506F6F06F60,
   0x06F5F0719F071AC071B1071A8072560729B0734E07357074690748B074830747E074800757F07620,
   0x076290761F076240762607621076220769A076BA076E40778E077870778C077910778B078CB078C5,
   0x078BA078CA078BE078D5078BC078D007A3F07A3C07A4007A3D07A3707A3B07AAF07AAE07BAD07BB1,
   0x07BC407BB407BC607BC707BC107BA007BCC07CCA07DE007DF407DEF07DFB07DD807DEC07DDD07DE8,
   0x07DE307DDA07DDE07DE907D9E07DD907DF207DF907F7507F7707FAF07FE9080260819B0819C0819D,
   0x081A00819A08198085170853D0851A084EE0852C0852D0851308511085230852108514084EC08525,
   0x084FF085060878208774087760876008766087780876808759087570874C087530885B0885D08910,
   0x089070891208913089150890A08ABC08AD208AC708AC408A9508ACB08AF808AB208AC908AC208ABF,
   0x08AB008AD608ACD08AB608AB908ADB08C4C08C4E08C6C08CE008CDE08CE608CE408CEC08CED08CE2,
   0x08CE308CDC08CEA08CE108D6D08D9F08DA308E2B08E1008E1D08E2208E0F08E2908E1F08E2108E1E,
   0x08EBA08F1D08F1B08F1F08F2908F2608F2A08F1C08F1E08F25090690906E090680906D0907709130,
   0x0912D091270913109187091890918B09183092C5092BB092B7092EA092AC092E4092C1092B3092BC,
   0x092D2092C7092F0092B2095AD095B109704097060970709709097600978D0978B0978F098210982B,
   0x0981C098B30990A099130991209918099DD099D0099DF099DB099D1099D5099D2099D909AB709AEE,
   0x09AEF09B2709B4509B4409B7709B6F09D0609D0909D0309EA909EBE09ECE058A809F520511205118,
   0x05114051100511505180051AA051DD0529105293052F3056590566B056790566905664056780566A,
   0x0566805665056710566F0566C0566205676058C1058BE058C7058C50596E05B1D05B3405B7805BF0,
   0x05C0E05F4A061B206191061A90618A061CD061B6061BE061CA061C806230064C5064C1064CB064BB,
   0x064BC064DA064C4064C7064C2064CD064BF064D2064D4064BE06574066C6066C9066B9066C4066C7,
   0x066B806A3D06A3806A3A06A5906A6B06A5806A3906A4406A6206A6106A4B06A4706A3506A5F06A48,
   0x06B5906B7706C0506FC206FB106FA106FC306FA406FC106FA706FB306FC006FB906FB606FA606FA0,
   0x06FB4071BE071C9071D0071D2071C8071D5071B9071CE071D9071DC071C3071C4073680749C074A3,
   0x074980749F0749E074E20750C0750D07634076380763A076E7076E5077A00779E0779F077A5078E8,
   0x078DA078EC078E7079A607A4D07A4E07A4607A4C07A4B07ABA07BD907C1107BC907BE407BDB07BE1,
   0x07BE907BE607CD507CD607E0A07E1107E0807E1B07E2307E1E07E1D07E0907E1007F7907FB207FF0,
   0x07FF107FEE08028081B3081A9081A8081FB0820808258082590854A0855908548085680856908543,
   0x085490856D0856A0855E087830879F0879E087A20878D088610892A08932089250892B08921089AA,
   0x089A608AE608AFA08AEB08AF108B0008ADC08AE708AEE08AFE08B0108B0208AF708AED08AF308AF6,
   0x08AFC08C6B08C6D08C9308CF408E4408E3108E3408E4208E3908E3508F3B08F2F08F3808F3308FA8,
   0x08FA6090750907409078090720907C0907A09134091920932009336092F8093330932F09322092FC,
   0x0932B093040931A093100932609321093150932E09319095BB096A7096A8096AA096D50970E09711,
   0x097160970D097130970F0975B0975C097660979809830098380983B098370982D098390982409910,
   0x099280991E0991B099210991A099ED099E2099F109AB809ABC09AFB09AED09B2809B9109D1509D23,
   0x09D2609D2809D1209D1B09ED809ED409F8D09F9C0512A0511F0512105132052F50568E0568005690,
   0x05685056870568F058D5058D3058D1058CE05B3005B2A05B2405B7A05C3705C6805DBC05DBA05DBD,
   0x05DB805E6B05F4C05FBD061C9061C2061C7061E6061CB0623206234064CE064CA064D8064E0064F0,
   0x064E6064EC064F1064E2064ED0658206583066D9066D606A8006A9406A8406AA206A9C06ADB06AA3,
   0x06A7E06A9706A9006AA006B5C06BAE06BDA06C0806FD806FF106FDF06FE006FDB06FE406FEB06FEF,
   0x06F8006FEC06FE106FE906FD506FEE06FF0071E7071DF071EE071E6071E5071ED071EC071F4071E0,
   0x07235072460737007372074A9074B0074A6074A807646076420764C076EA077B3077AA077B0077AC,
   0x077A7077AD077EF078F7078FA078F4078EF07901079A7079AA07A5707ABF07C0707C0D07BFE07BF7,
   0x07C0C07BE007CE007CDC07CDE07CE207CDF07CD907CDD07E2E07E3E07E4607E3707E3207E4307E2B,
   0x07E3D07E3107E4507E4107E3407E3907E4807E3507E3F07E2F07F4407FF307FFC080710807208070,
   0x0806F08073081C6081C3081BA081C2081C0081BF081BD081C9081BE081E80820908271085AA08584,
   0x0857E0859C0859108594085AF0859B08587085A80858A08667087C0087D1087B3087D2087C6087AB,
   0x087BB087BA087C8087CB0893B0893608944089380893D089AC08B0E08B1708B1908B1B08B0A08B20,
   0x08B1D08B0408B1008C4108C3F08C7308CFA08CFD08CFC08CF808CFB08DA808E4908E4B08E4808E4A,
   0x08F4408F3E08F4208F4508F3F0907F0907D0908409081090820908009139091A30919E0919C0934D,
   0x0938209328093750934A093650934B093180937E0936C0935B093700935A09354095CA095CB095CC,
   0x095C8095C6096B1096B8096D60971C0971E097A0097D309846098B60993509A01099FF09BAE09BAB,
   0x09BAA09BAD09D3B09D3F09E8B09ECF09EDE09EDC09EDD09EDB09F3E09F4B053E205695056AE058D9,
   0x058D805B3805F5D061E306233064F4064F2064FE06506064FA064FB064F7065B7066DC0672606AB3,
   0x06AAC06AC306ABB06AB806AC206AAE06AAF06B5F06B7806BAF070090700B06FFE0700606FFA07011,
   0x0700F071FB071FC071FE071F80737707375074A7074BF07515076560765807652077BD077BF077BB,
   0x077BC0790E079AE07A6107A6207A6007AC407AC507C2B07C2707C2A07C1E07C2307C2107CE707E54,
   0x07E5507E5E07E5A07E6107E5207E5907F4807FF907FFB0807708076081CD081CF0820A085CF085A9,
   0x085CD085D0085C9085B0085BA085B9085A6087EF087EC087F2087E008986089B2089F408B2808B39,
   0x08B2C08B2B08C5008D0508E5908E6308E6608E6408E5F08E5508EC008F4908F4D090870908309088,
   0x091AB091AC091D0093940938A09396093A2093B3093AE093AC093B0093980939A09397095D4095D6,
   0x095D0095D5096E2096DC096D9096DB096DE09724097A3097A6097AD097F90984D0984F0984C0984E,
   0x09853098BA0993E0993F0993D0992E099A509A0E09AC109B0309B0609B4F09B4E09B4D09BCA09BC9,
   0x09BFD09BC809BC009D5109D5D09D6009EE009F1509F2C05133056A5058DE058DF058E205BF509F90,
   0x05EEC061F2061F7061F6061F5065000650F066E0066DD06AE506ADD06ADA06AD30701B0701F07028,
   0x0701A0701D0701507018072060720D07258072A2073780737A074BD074CA074E307587075860765F,
   0x07661077C707919079B107A6B07A6907C3E07C3F07C3807C3D07C3707C4007E6B07E6D07E7907E69,
   0x07E6A07F8507E7307FB607FB907FB8081D8085E9085DD085EA085D5085E4085E5085F7087FB08805,
   0x0880D087F9087FE089600895F089560895E08B4108B5C08B5808B4908B5A08B4E08B4F08B4608B59,
   0x08D0808D0A08E7C08E7208E8708E7608E6C08E7A08E7408F5408F4E08FAD0908A0908B091B1091AE,
   0x093E1093D1093DF093C3093C8093DC093DD093D6093E2093CD093D8093E4093D7093E8095DC096B4,
   0x096E30972A0972709761097DC097FB0985E098580985B098BC099450994909A1609A1909B0D09BE8,
   0x09BE709BD609BDB09D8909D6109D7209D6A09D6C09E9209E9709E9309EB4052F8056A8056B7056B6,
   0x056B4056BC058E405B4005B4305B7D05BF605DC9061F8061FA065180651406519066E60672706AEC,
   0x0703E0703007032072100737B074CF0766207665079260792A0792C0792B07AC707AF607C4C07C43,
   0x07C4D07CEF07CF008FAE07E7D07E7C07E8207F4C08000081DA08266085FB085F908611085FA08606,
   0x0860B086070860A088140881508964089BA089F808B7008B6C08B6608B6F08B5F08B6B08D0F08D0D,
   0x08E8908E8108E8508E82091B4091CB0941809403093FD095E109730098C40995209951099A809A2B,
   0x09A3009A3709A3509C1309C0D09E7909EB509EE809F2F09F5F09F6309F610513705138056C1056C0,
   0x056C20591405C6C05DCD061FC061FE0651D0651C06595066E906AFB06B0406AFA06BB20704C0721B,
   0x072A7074D6074D407669077D307C5007E8F07E8C07FBC086170862D0861A0882308822088210881F,
   0x0896A0896C089BD08B7408B7708B7D08D1308E8A08E8D08E8B08F5F08FAF091BA0942E0943309435,
   0x0943A09438094320942B095E2097380973909732097FF09867098650995709A4509A4309A4009A3E,
   0x09ACF09B5409B5109C2D09C2509DAF09DB409DC209DB809E9D09EEF09F1909F5C09F6609F670513C,
   0x0513B056C8056CA056C905B7F05DD405DD205F4E061FF0652406B0A06B61070510705807380074E4,
   0x0758A0766E0766C079B307C6007C5F0807E0807D081DF089720896F089FC08B8008D1608D1708E91,
   0x08E9308F61091480944409451094520973D0973E097C3097C10986B0995509A5509A4D09AD209B1A,
   0x09C4909C3109C3E09C3B09DD309DD709F3409F6C09F6A09F94056CC05DD606200065230652B0652A,
   0x066EC06B10074DA07ACA07C6407C6307C6507E9307E9607E94081E2086380863F0883108B8A09090,
   0x0908F094630946009464097680986F0995C09A5A09A5B09A5709AD309AD409AD109C5409C5709C56,
   0x09DE509E9F09EF4056D1058E90652C0705E0767107672077D707F5007F8808836088390886208B93,
   0x08B9208B960827708D1B091C00946A097420974809744097C60987009A5F09B2209B5809C5F09DF9,
   0x09DFA09E7C09E7D09F0709F7709F7205EF306B160706307C6C07C6E0883B089C008EA1091C109472,
   0x09470098710995E09AD609B2309ECC07064077DA08B9A09477097C909A6209A6507E9C08B9C08EAA,
   0x091C50947D0947E0947C09C7709C7809EF708C540947F09E1A0722809A6A09B3109E1B09E1E07C72,
   0x02460024610246202463024640246502466024670246802469024740247502476024770247802479,
   0x0247A0247B0247C0247D0217002171021720217302174021750217602177021780217904E3604E3F,
   0x04E8504EA00518205196051AB052F90533805369053B60590A05B8005DDB02F3305E7F05EF405F50,
   0x05F6106534065E0075920767608FB508FB6000A8002C6030FD030FE0309D0309E0300304EDD03005,
   0x0300603007030FC0FF3B0FF3D0273D0304103042030430304403045030460304703048030490304A,
   0x0304B0304C0304D0304E0304F030500305103052030530305403055030560305703058030590305A,
   0x0305B0305C0305D0305E0305F030600306103062030630306403065030660306703068030690306A,
   0x0306B0306C0306D0306E0306F030700307103072030730307403075030760307703078030790307A,
   0x0307B0307C0307D0307E0307F030800308103082030830308403085030860308703088030890308A,
   0x0308B0308C0308D0308E0308F03090030910309203093030A1030A2030A3030A4030A5030A6030A7,
   0x030A8030A9030AA030AB030AC030AD030AE030AF030B0030B1030B2030B3030B4030B5030B6030B7,
   0x030B8030B9030BA030BB030BC030BD030BE030BF030C0030C1030C2030C3030C4030C5030C6030C7,
   0x030C8030C9030CA030CB030CC030CD030CE030CF030D0030D1030D2030D3030D4030D5030D6030D7,
   0x030D8030D9030DA030DB030DC030DD030DE030DF030E0030E1030E2030E3030E4030E5030E6030E7,
   0x030E8030E9030EA030EB030EC030ED030EE030EF030F0030F1030F2030F3030F4030F5030F600410,
   0x004110041200413004140041500401004160041700418004190041A0041B0041C0041D0041E0041F,
   0x004200042100422004230042400425004260042700428004290042A0042B0042C0042D0042E0042F,
   0x00430004310043200433004340043500451004360043700438004390043A0043B0043C0043D0043E,
   0x0043F004400044100442004430044400445004460044700448004490044A0044B0044C0044D0044E,
   0x0044F021E7021B8021B9031CF200CC04E5A2008A052020449109FB00518809FB1276070000000000, 0, 0,
   0x0000000000000000000000000000000FFE20FFE40FF070FF020323102116021210309B0309C02E80,
   0x02E8402E8602E8702E8802E8A02E8C02E8D02E9502E9C02E9D02EA502EA702EAA02EAC02EAE02EB6,
   0x02EBC02EBE02EC602ECA02ECC02ECD02ECF02ED602ED702EDE02EE30000000000000000028300250,
   0x0025B002540027500153000F80014B0028A0026A04E4204E5C051F50531A0538204E0704E0C04E47,
   0x04E8D056D70FA0C05C6E05F7304E0F0518704E0E04E2E04E9304EC204EC904EC805198052FC0536C,
   0x053B905720059030592C05C1005DFF065E106BB306BCC06C140723F04E3104E3C04EE804EDC04EE9,
   0x04EE104EDD04EDA0520C0531C0534C0572205723059170592F05B8105B8405C1205C3B05C7405C73,
   0x05E0405E8005E8205FC9062090625006C1506C3606C4306C3F06C3B072AE072B00738A079B80808A,
   0x0961E04F0E04F1804F2C04EF504F1404EF104F0004EF704F0804F1D04F0204F0504F2204F1304F04,
   0x04EF404F12051B1052130520905210052A6053220531F0534D0538A05407056E1056DF0572E0572A,
   0x057340593C059800597C059850597B0597E059770597F05B5605C1505C2505C7C05C7A05C7B05C7E,
   0x05DDF05E7505E8405F0205F1A05F7405FD505FD405FCF0625C0625E0626406261062660626206259,
   0x062600625A06265065EF065EE0673E06739067380673B0673A0673F0673C0673306C1806C4606C52,
   0x06C5C06C4F06C4A06C5406C4B06C4C070710725E072B4072B50738E0752A0767F07A7507F5108278,
   0x0827C082800827D0827F0864D0897E0909909097090980909B090940962209624096200962304F56,
   0x04F3B04F6204F4904F5304F6404F3E04F6704F5204F5F04F4104F5804F2D04F3304F3F04F610518F,
   0x051B90521C0521E05221052AD052AE0530905363053720538E0538F05430054370542A0545405445,
   0x054190541C05425054180543D0544F05441054280542405447056EE056E7056E505741057450574C,
   0x057490574B057520590605940059A605998059A0059970598E059A2059900598F059A7059A105B8E,
   0x05B9205C2805C2A05C8D05C8F05C8805C8B05C8905C9205C8A05C8605C9305C9505DE005E0A05E0E,
   0x05E8B05E8905E8C05E8805E8D05F0505F1D05F7805F7605FD205FD105FD005FED05FE805FEE05FF3,
   0x05FE105FE405FE305FFA05FEF05FF705FFB0600005FF40623A062830628C0628E0628F0629406287,
   0x062710627B0627A062700628106288062770627D062720627406537065F0065F4065F3065F2065F5,
   0x067450674706759067550674C067480675D0674D0675A0674B06BD006C1906C1A06C7806C6706C6B,
   0x06C8406C8B06C8F06C7106C6F06C6906C9A06C6D06C8706C9506C9C06C6606C7306C6506C7B06C8E,
   0x070740707A07263072BF072BD072C3072C6072C1072BA072C507395073970739307394073920753A,
   0x075390759407595076810793D08034080950809908090080920809C082900828F082850828E08291,
   0x082930828A082830828408C7808FC908FBF0909F090A1090A50909E090A7090A009630096280962F,
   0x0962D04E3304F9804F7C04F8504F7D04F8004F8704F7604F7404F8904F8404F7704F4C04F9704F6A,
   0x04F9A04F7904F8104F7804F9004F9C04F9404F9E04F9204F8204F9504F6B04F6E0519E051BC051BE,
   0x0523505232052330524605231052BC0530A0530B0533C0539205394054870547F054810549105482,
   0x054880546B0547A0547E054650546C05474054660548D0546F054610546005498054630546705464,
   0x056F7056F90576F057720576D0576B05771057700577605780057750577B05773057740576205768,
   0x0577D0590C05945059B5059BA059CF059CE059B2059CC059C1059B6059BC059C3059D6059B1059BD,
   0x059C0059C8059B4059C705B6205B6505B9305B9505C4405C4705CAE05CA405CA005CB505CAF05CA8,
   0x05CAC05C9F05CA305CAD05CA205CAA05CA705C9D05CA505CB605CB005CA605E1705E1405E1905F28,
   0x05F2205F2305F2405F5405F8205F7E05F7D05FDE05FE50602D0602606019060320600B060340600A,
   0x06017060330601A0601E0602C060220600D060100602E06013060110600C060090601C062140623D,
   0x062AD062B4062D1062BE062AA062B6062CA062AE062B3062AF062BB062A9062B0062B80653D065A8,
   0x065BB06609065FC066040661206608065FB066030660B0660D06605065FD0661106610066F60670A,
   0x067850676C0678E06792067760677B067980678606784067740678D0678C0677A0679F0679106799,
   0x067830677D0678106778067790679406B2506B8006B7E06BDE06C1D06C9306CEC06CEB06CEE06CD9,
   0x06CB606CD406CAD06CE706CB706CD006CC206CBA06CC306CC606CED06CF206CD206CDD06CB406C8A,
   0x06C9D06C8006CDE06CC006D3006CCD06CC706CB006CF906CCF06CE906CD107094070980708507093,
   0x07086070840709107096070820709A070830726A072D6072CB072D8072C9072DC072D2072D4072DA,
   0x072CC072D1073A4073A1073AD073A6073A2073A0073AC0739D074DD074E80753F075400753E0758C,
   0x07598076AF076F3076F1076F0076F5077F8077FC077F9077FB077FA077F7079420793F079C507A78,
   0x07A7B07AFB07C7507CFD080350808F080AE080A3080B8080B5080AD08220082A0082C0082AB0829A,
   0x082980829B082B5082A7082AE082BC0829E082BA082B4082A8082A1082A9082C2082A4082C3082B6,
   0x082A2086700866F0866D0866E08C5608FD208FCB08FD308FCD08FD608FD508FD7090B2090B4090AF,
   0x090B3090B0096390963D0963C0963A0964304FCD04FC504FD304FB204FC904FCB04FC104FD404FDC,
   0x04FD904FBB04FB304FDB04FC704FD604FBA04FC004FB904FEC0524405249052C0052C20533D0537C,
   0x05397053960539905398054BA054A1054AD054A5054CF054C30830D054B7054AE054D6054B6054C5,
   0x054C6054A005470054BC054A2054BE05472054DE054B0057B50579E0579F057A40578C057970579D,
   0x0579B05794057980578F05799057A50579A05795058F40590D05953059E1059DE059EE05A00059F1,
   0x059DD059FA059FD059FC059F6059E4059F2059F7059DB059E9059F3059F5059E0059FE059F4059ED,
   0x05BA805C4C05CD005CD805CCC05CD705CCB05CDB05CDE05CDA05CC905CC705CCA05CD605CD305CD4,
   0x05CCF05CC805CC605CCE05CDF05CF805DF905E2105E2205E2305E2005E2405EB005EA405EA205E9B,
   0x05EA305EA505F0705F2E05F5605F86060370603906054060720605E060450605306047060490605B,
   0x0604C06040060420605F060240604406058060660606E0624206243062CF0630D0630B062F50630E,
   0x06303062EB062F90630F0630C062F8062F6063000631306314062FA06315062FB062F00654106543,
   0x065AA065BF066360662106632066350661C0662606622066330662B0663A0661D06634066390662E,
   0x0670F06710067C1067F2067C8067BA067DC067BB067F8067D8067C0067B7067C5067EB067E4067DF,
   0x067B5067CD067B3067F7067F6067EE067E3067C2067B9067CE067E7067F0067B2067FC067C6067ED,
   0x067CC067AE067E6067DB067FA067C9067CA067C3067EA067CB06B2806B8206B8406BB606BD606BD8,
   0x06BE006C2006C2106D2806D3406D2D06D1F06D3C06D3F06D1206D0A06CDA06D3306D0406D1906D3A,
   0x06D1A06D1106D0006D1D06D4206D0106D1806D3706D0306D0F06D4006D0706D2006D2C06D0806D22,
   0x06D0906D10070B70709F070BE070B1070B0070A1070B4070B5070A907241072490724A0726C07270,
   0x072730726E072CA072E4072E8072EB072DF072EA072E6072E307385073CC073C2073C8073C5073B9,
   0x073B6073B5073B4073EB073BF073C7073BE073C3073C6073B8073CB074EC074EE0752E0754707548,
   0x075A7075AA07679076C4077080770307704077050770A076F7076FB076FA077E7077E80780607811,
   0x0781207805078100780F0780E0780907803078130794A0794C0794B0794507944079D5079CD079CF,
   0x079D6079CE07A8007A7E07AD107B0007B0107C7A07C7807C7907C7F07C8007C8107D0307D0807D01,
   0x07F5807F9107F8D07FBE080070800E0800F0801408037080D8080C7080E0080D1080C8080C2080D0,
   0x080C5080E3080D9080DC080CA080D5080C9080CF080D7080E6080CD081FF0822108294082D9082FE,
   0x082F908307082E808300082D50833A082EB082D6082F4082EC082E1082F2082F50830C082FB082F6,
   0x082F0082EA082E4082E0082FA082F3082ED08677086740867C08673088410884E088670886A08869,
   0x089D308A0408A0708D7208FE308FE108FEE08FE0090F1090BD090BF090D5090C5090BE090C7090CB,
   0x090C8091D4091D3096540964F09651096530964A0964E0501E05005050070501305022050300501B,
   0x04FF504FF405033050370502C04FF604FF7050170501C0502005027050350502F050310500E0515A,
   0x0519405193051CA051C4051C5051C8051CE052610525A052520525E0525F0525505262052CD0530E,
   0x0539E05526054E20551705512054E7054F3054E40551A054FF0550405508054EB0551105505054F1,
   0x0550A054FB054F7054F8054E00550E055030550B0570105702057CC05832057D5057D2057BA057C6,
   0x057BD057BC057B8057B6057BF057C7057D0057B9057C10590E0594A05A1905A1605A2D05A2E05A15,
   0x05A0F05A1705A0A05A1E05A3305B6C05BA705BAD05BAC05C0305C5605C5405CEC05CFF05CEE05CF1,
   0x05CF705D0005CF905E2905E2805EA805EAE05EAA05EAC05F3305F3005F670605D0605A0606706041,
   0x060A2060880608006092060810609D06083060950609B06097060870609C0608E0621906246062F2,
   0x06310063560632C06344063450633606343063E4063390634B0634A0633C06329063410633406358,
   0x06354063590632D06347063330635A06351063380635706340063480654A06546065C6065C3065C4,
   0x065C20664A0665F066470665106712067130681F0681A0684906832068330683B0684B0684F06816,
   0x068310681C068350682B0682D0682F0684E06844068340681D068120681406826068280682E0684D,
   0x0683A068250682006B2C06B2F06B2D06B3106B3406B6D0808206B8806BE606BE406BE806BE306BE2,
   0x06BE706C2506D7A06D6306D6406D7606D0D06D6106D9206D5806D6206D6D06D6F06D9106D8D06DEF,
   0x06D7F06D8606D5E06D6706D6006D9706D7006D7C06D5F06D8206D9806D2F06D6806D8B06D7E06D80,
   0x06D8406D1606D8306D7B06D7D06D7506D90070DC070D3070D1070DD070CB07F39070E2070D7070D2,
   0x070DE070E0070D4070CD070C5070C6070C7070DA070CE070E10724207278072770727607300072FA,
   0x072F4072FE072F6072F3072FB07301073D3073D9073E5073D6073BC073E7073E3073E9073DC073D2,
   0x073DB073D4073DD073DA073D7073D8073E8074DE074DF074F4074F5075210755B0755F075B0075C1,
   0x075BB075C4075C0075BF075B6075BA0768A076C90771D0771B077100771307712077230771107715,
   0x077190771A0772207727078230782C07822078350782F078280782E0782B0782107829078330782A,
   0x07831079540795B0794F0795C079530795207951079EB079EC079E0079EE079ED079EA079DC079DE,
   0x079DD07A8607A8907A8507A8B07A8C07A8A07A8707AD807B1007B0407B1307B0507B0F07B0807B0A,
   0x07B0E07B0907B1207C8407C9107C8A07C8C07C8807C8D07C8507D1E07D1D07D1107D0E07D1807D16,
   0x07D1307D1F07D1207D0F07D0C07F5C07F6107F5E07F6007F5D07F5B07F9607F9207FC307FC207FC0,
   0x080160803E08039080FA080F2080F9080F508101080FB08100082010822F08225083330832D08344,
   0x083190835108325083560833F08341083260831C08322083420834E0831B0832A083080833C0834D,
   0x083160832408320083370832F0832908347083450834C083530831E0832C0834B083270834808653,
   0x08652086A2086A8086960868D086910869E0868708697086860868B0869A08685086A508699086A1,
   0x086A708695086980868E0869D086900869408843088440886D08875088760887208880088710887F,
   0x0886F088830887E088740887C08A1208C4708C5708C7B08CA408CA308D7608D7808DB508DB708DB6,
   0x08ED108ED308FFE08FF50900208FFF08FFB0900408FFC08FF6090D6090E0090D9090DA090E3090DF,
   0x090E5090D8090DB090D7090DC090E4091500914E0914F091D5091E2091DA0965C0965F096BC098E3,
   0x09ADF09B2F04E7F050700506A050610505E05060050530504B0505D05072050480504D050410505B,
   0x0504A0506205015050450505F050690506B050630506405046050400506E050730505705051051D0,
   0x0526B0526D0526C0526E052D6052D30532D0539C05575055760553C0554D05550055340552A05551,
   0x0556205536055350553005552055450550C05532055650554E05539055480552D0553B055400554B,
   0x0570A05707057FB05814057E2057F6057DC057F405800057ED057FD05808057F80580B057F3057CF,
   0x05807057EE057E3057F2057E5057EC057E10580E057FC05810057E7058010580C057F1057E9057F0,
   0x0580D058040595C05A6005A5805A5505A6705A5E05A3805A3505A6D05A5005A5F05A6505A6C05A53,
   0x05A6405A5705A4305A5D05A5205A4405A5B05A4805A8E05A3E05A4D05A3905A4C05A7005A6905A47,
   0x05A5105A5605A4205A5C05B7205B6E05BC105BC005C5905D1E05D0B05D1D05D1A05D2005D0C05D28,
   0x05D0D05D2605D2505D0F05D3005D1205D2305D1F05D2E05E3E05E3405EB105EB405EB905EB205EB3,
   0x05F3605F3805F9B05F9605F9F0608A0609006086060BE060B0060BA060D3060D4060CF060E4060D9,
   0x060DD060C8060B1060DB060B7060CA060BF060C3060CD060C006332063650638A063820637D063BD,
   0x0639E063AD0639D06397063AB0638E0636F06387063900636E063AF063750639C0636D063AE0637C,
   0x063A40633B0639F063780638506381063910638D0637006553065CD06665066610665B066590665C,
   0x06662067180687906887068900689C0686D0686E068AE068AB069560686F068A3068AC068A906875,
   0x06874068B20688F06877068920687C0686B06872068AA06880068710687E0689B068960688B068A0,
   0x06889068A4068780687B068910688C0688A0687D06B3606B3306B3706B3806B9106B8F06B8D06B8E,
   0x06B8C06C2A06DC006DAB06DB406DB306E7406DAC06DE906DE206DB706DF606DD406E0006DC806DE0,
   0x06DDF06DD606DBE06DE506DDC06DDD06DDB06DF406DCA06DBD06DED06DF006DBA06DD506DC206DCF,
   0x06DC906DD006DF206DD306DFD06DD706DCD06DE306DBB070FA0710D070F707117070F40710C070F0,
   0x07104070F307110070FC070FF071060711307100070F8070F60710B071020710E0727E0727B0727C,
   0x0727F0731D073170730707311073180730A07308072FF0730F0731E07388073F6073F8073F507404,
   0x07401073FD0740707400073FA073FC073FF0740C0740B073F4074080756407563075CE075D2075CF,
   0x075CB075CC075D1075D00768F07689076D3077390772F0772D077310773207734077330773D07725,
   0x0773B077350784807852078490784D0784A0784C0782607845078500796407967079690796A07963,
   0x0796B07961079BB079FA079F8079F6079F707A8F07A9407A9007B3507B4707B3407B2507B3007B22,
   0x07B2407B3307B1807B2A07B1D07B3107B2B07B2D07B2F07B3207B3807B1A07B2307C9407C9807C96,
   0x07CA307D3507D3D07D3807D3607D3A07D4507D2C07D2907D4107D4707D3E07D3F07D4A07D3B07D28,
   0x07F6307F9507F9C07F9D07F9B07FCA07FCB07FCD07FD007FD107FC707FCF07FC90801F0801E0801B,
   0x0804708043080480811808125081190811B0812D0811F0812C0811E0812108115081270811D08122,
   0x0821108238082330823A08234082320827408390083A3083A80838D0837A08373083A4083740838F,
   0x0838108395083990837508394083A90837D083830838C0839D0839B083AA0838B0837E083A5083AF,
   0x0838808397083B00837F083A608387083AE083760839A0865908656086BF086B7086C2086C1086C5,
   0x086BA086B0086C8086B9086B3086B8086CC086B4086BB086BC086C3086BD086BE088520888908895,
   0x088A8088A2088AA0889A08891088A10889F08898088A7088990889B08897088A4088AC0888C08893,
   0x0888E08982089D6089D9089D508A3008A2708A2C08A1E08C3908C3B08C5C08C5D08C7D08CA508D7D,
   0x08D7B08D7908DBC08DC208DB908DBF08DC108ED808EDE08EDD08EDC08ED708EE008EE1090240900B,
   0x090110901C0900C09021090EF090EA090F0090F4090F2090F3090D4090EB090EC090E90915609158,
   0x0915A0915309155091EC091F4091F1091F3091F8091E4091F9091EA091EB091F7091E8091EE0957A,
   0x09586095880967C0966D0966B096710966F096BF0976A09804098E5099970509B05095050940509E,
   0x0508B050A3050830508C0508E0509D050680509C0509205082050870515F051D40531205311053A4,
   0x053A705591055A8055A5055AD0557705645055A205593055880558F055B505581055A305592055A4,
   0x0557D0558C055A60557F05595055A10558E0570C0582905837058190581E058270582305828057F5,
   0x05848058250581C0581B058330583F058360582E05839058380582D0582C0583B0596105AAF05A94,
   0x05A9F05A7A05AA205A9E05A7805AA605A7C05AA505AAC05A9505AAE05A3705A8405A8A05A9705A83,
   0x05A8B05AA905A7B05A7D05A8C05A9C05A8F05A9305A9D05BEA05BCD05BCB05BD405BD105BCA05BCE,
   0x05C0C05C3005D3705D4305D6B05D4105D4B05D3F05D3505D5105D4E05D5505D3305D3A05D5205D3D,
   0x05D3105D5905D4205D3905D4905D3805D3C05D3205D3605D4005D4505E4405E4105F5805FA605FA5,
   0x05FAB060C9060B9060CC060E2060CE060C406114060F20610A0611606105060F506113060F8060FC,
   0x060FE060C106103061180611D06110060FF061040610B0624A06394063B1063B0063CE063E5063E8,
   0x063EF063C30649D063F3063CA063E0063F6063D5063F2063F506461063DF063BE063DD063DC063C4,
   0x063D8063D3063C2063C7063CC063CB063C8063F0063D7063D906532065670656A065640655C06568,
   0x065650658C0659D0659E065AE065D0065D20667C0666C0667B0668006671066790666A0667206701,
   0x0690C068D306904068DC0692A068EC068EA068F10690F068D6068F7068EB068E4068F60691306910,
   0x068F3068E106907068CC0690806970068B406911068EF068C606914068F8068D0068FD068FC068E8,
   0x0690B0690A06917068CE068C8068DD068DE068E6068F4068D106906068D4068E90691506925068C7,
   0x06B3906B3B06B3F06B3C06B9406B9706B9906B9506BBD06BF006BF206BF306C3006DFC06E4606E47,
   0x06E1F06E4906E8806E3C06E3D06E4506E6206E2B06E3F06E4106E5D06E7306E1C06E3306E4B06E40,
   0x06E5106E3B06E0306E2E06E5E06E6806E5C06E6106E3106E2806E6006E7106E6B06E3906E2206E30,
   0x06E5306E6506E2706E7806E6406E7706E5506E7906E5206E6606E3506E3606E5A071200711E0712F,
   0x070FB0712E07131071230712507122071320711F071280713A0711B0724B0725A072880728907286,
   0x072850728B073120730B0733007322073310733307327073320732D0732607323073350730C0742E,
   0x0742C074300742B074160741A074210742D0743107424074230741D074290742007432074FB0752F,
   0x0756F0756C075E7075DA075E1075E6075DD075DF075E4075D70769507692076DA077460774707744,
   0x0774D077450774A0774E0774B0774C077DE077EC0786007864078650785C0786D078710786A0786E,
   0x0787007869078680785E078620797407973079720797007A0207A0A07A0307A0C07A0407A9907AE6,
   0x07AE407B4A07B3B07B4407B4807B4C07B4E07B4007B5807B4507CA207C9E07CA807CA107D5807D6F,
   0x07D6307D5307D5607D6707D6A07D4F07D6D07D5C07D6B07D5207D5407D6907D5107D5F07D4E07F3E,
   0x07F3F07F6507F6607FA207FA007FA107FD7080510804F08050080FE080D4081430814A081520814F,
   0x081470813D0814D0813A081E6081EE081F7081F8081F9082040823C0823D0823F082750833B083CF,
   0x083F908423083C0083E808412083E7083E4083FC083F608410083C6083C8083EB083E3083BF08401,
   0x083DD083E5083D8083FF083E1083CB083CE083D6083F5083C9084090840F083DE0841108406083C2,
   0x083F3083D5083FA083C7083D1083EA08413083C3083EC083EE083C4083FB083D7083E20841B083DB,
   0x083FE086D8086E2086E6086D3086E3086DA086EA086DD086EB086DC086EC086E9086D7086E8086D1,
   0x088480885608855088BA088D7088B9088B8088C0088BE088B6088BC088B7088BD088B208901088C9,
   0x089950899808997089DD089DA089DB08A4E08A4D08A3908A5908A4008A5708A5808A4408A4508A52,
   0x08A4808A5108A4A08A4C08A4F08C5F08C8108C8008CBA08CBE08CB008CB908CB508D8408D8008D89,
   0x08DD808DD308DCD08DC708DD608DDC08DCF08DD508DD908DC808DD708DC508EEF08EF708EFA08EF9,
   0x08EE608EEE08EE508EF508EE708EE808EF608EEB08EF108EEC08EF408EE90902D090340902F09106,
   0x0912C09104090FF090FC09108090F9090FB091010910009107091050910309161091640915F09162,
   0x09160092010920A09225092030921A092260920F0920C0920009212091FF091FD092060920409227,
   0x092020921C09224092190921709205092160957B0958D0958C09590096870967E096880968909683,
   0x09680096C2096C8096C3096F1096F00976C097700976E09807098A9098EB09CE609EF904E8304E84,
   0x04EB6050BD050BF050C6050AE050C4050CA050B4050C8050C2050B0050C1050BA050B1050CB050C9,
   0x050B6050B8051D70527A052780527B0527C055C3055DB055CC055D0055CB055CA055DD055C0055D4,
   0x055C4055E9055BF055D20558D055CF055D5055E2055D6055C8055F2055CD055D9055C20571405853,
   0x05868058640584F0584D058490586F058550584E0585D05859058650585B0583D0586305871058FC,
   0x05AC705AC405ACB05ABA05AB805AB105AB505AB005ABF05AC805ABB05AC605AB705AC005ACA05AB4,
   0x05AB605ACD05AB905A9005BD605BD805BD905C1F05C3305D7105D6305D4A05D6505D7205D6C05D5E,
   0x05D6805D6705D6205DF005E4F05E4E05E4A05E4D05E4B05EC505ECC05EC605ECB05EC705F4005FAF,
   0x05FAD060F7061490614A0612B0614506136061320612E061460612F0614F06129061400622009168,
   0x062230622506224063C5063F1063EB064100641206409064200642406433064430641F0641506418,
   0x064390643706422064230640C06426064300642806441064350642F0640A0641A064400642506427,
   0x0640B063E70641B0642E064210640E0656F06592065D3066860668C06695066900668B0668A06699,
   0x066940667806720069660695F069380694E06962069710693F069450696A06939069420695706959,
   0x0697A0694806949069350696C069330693D06965068F0069780693406969069400696F0694406976,
   0x0695806941069740694C0693B0694B069370695C0694F0695106932069520692F0697B0693C06B46,
   0x06B4506B4306B4206B4806B4106B9B0FA0D06BFB06BFC06BF906BF706BF806E9B06ED606EC806E8F,
   0x06EC006E9F06E9306E9406EA006EB106EB906EC606ED206EBD06EC106E9E06EC906EB706EB006ECD,
   0x06EA606ECF06EB206EBE06EC306EDC06ED806E9906E9206E8E06E8D06EA406EA106EBF06EB306ED0,
   0x06ECA06E9706EAE06EA30714707154071520716307160071410715D0716207172071780716A07161,
   0x0714207158071430714B071700715F0715007153071440714D0715A0724F0728D0728C0729107290,
   0x0728E0733C073420733B0733A073400734A07349074440744A0744B074520745107457074400744F,
   0x074500744E07442074460744D07454074E1074FF074FE074FD0751D075790757706983075EF0760F,
   0x07603075F7075FE075FC075F9075F807610075FB075F6075ED075F5075FD07699076B5076DD07755,
   0x0775F0776007752077560775A077690776707754077590776D077E0078870789A078940788F07884,
   0x078950788507886078A107883078790789907880078960787B0797C079820797D0797907A1107A18,
   0x07A1907A1207A1707A1507A2207A1307A1B07A1007AA307AA207A9E07AEB07B6607B6407B6D07B74,
   0x07B6907B7207B6507B7307B7107B7007B6107B7807B7607B6307CB207CB407CAF07D8807D8607D80,
   0x07D8D07D7F07D8507D7A07D8E07D7B07D8307D7C07D8C07D9407D8407D7D07D9207F6D07F6B07F67,
   0x07F6807F6C07FA607FA507FA707FDB07FDC080210816408160081770815C081690815B0816208172,
   0x067210815E08176081670816F08144081610821D0824908244082400824208245084F10843F08456,
   0x08476084790848F0848D0846508451084400848608467084300844D0847D0845A084590847408473,
   0x0845D085070845E084370843A084340847A0844308478084320844508429083D90844B0842F08442,
   0x0842D0845F08470084390844E0844C084520846F084C50848E0843B084470843608433084680847E,
   0x084440842B08460084540846E084500870B08704086F70870C086FA086D6086F50874D086F80870E,
   0x0870908701086F60870D08705088D6088CB088CD088CE088DE088DB088DA088CC088D0089850899B,
   0x089DF089E5089E4089E1089E0089E2089DC089E608A7608A8608A7F08A6108A3F08A7708A8208A84,
   0x08A7508A8308A8108A7408A7A08C3C08C4B08C4A08C6508C6408C6608C8608C8408C8508CCC08D68,
   0x08D6908D9108D8C08D8E08D8F08D8D08D9308D9408D9008D9208DF008DE008DEC08DF108DEE08DD0,
   0x08DE908DE308DE208DE708DF208DEB08DF408F0608EFF08F0108F0008F0508F0708F0808F0208F0B,
   0x090520903F09044090490903D091100910D0910F0911109116091140910B0910E0916E0916F09248,
   0x09252092300923A0926609233092650925E092830922E0924A092460926D0926C0924F0926009267,
   0x0926F09236092610927009231092540926309250092720924E092530924C09256092320959F0959C,
   0x0959E0959B09692096930969109697096CE096FA096FD096F8096F5097730977709778097720980F,
   0x0980D0980E098AC098F6098F9099AF099B2099B0099B509AAD09AAB09B5B09CEA09CED09CE709E80,
   0x09EFD050E6050D4050D7050E8050F3050DB050EA050DD050E4050D3050EC050F0050EF050E3050E0,
   0x051D80528005281052E9052EB05330053AC05627056150560C05612055FC0560F0561C0560105613,
   0x05602055FA0561D05604055FF055F9058890587C058900589805886058810587F058740588B0587A,
   0x05887058910588E0587605882058880587B058940588F058FE0596B05ADC05AEE05AE505AD505AEA,
   0x05ADA05AED05AEB05AF305AE205AE005ADB05AEC05ADE05ADD05AD905AE805ADF05B7705BE005BE3,
   0x05C6305D8205D8005D7D05D8605D7A05D8105D7705D8A05D8905D8805D7E05D7C05D8D05D7905D7F,
   0x05E5805E5905E5305ED805ED105ED705ECE05EDC05ED505ED905ED205ED405F4405F4305F6F05FB6,
   0x0612C06128061410615E06171061730615206153061720616C0618006174061540617A0615B06165,
   0x0613B0616A061610615606229062270622B0642B0644D0645B0645D064740647606472064730647D,
   0x0647506466064A60644E064820645E0645C0644B0645306460064500647F0643F0646C0646B06459,
   0x064650647706573065A0066A1066A00669F067050670406722069B1069B6069C9069A0069CE06996,
   0x069B0069AC069BC06991069990698E069A70698D069A9069BE069AF069BF069C4069BD069A4069D4,
   0x069B9069CA0699A069CF069B306993069AA069A10699E069D90699706990069C2069B5069A5069C6,
   0x06B4A06B4D06B4B06B9E06B9F06BA006BC306BC406BFE06ECE06EF506EF106F0306F2506EF806F37,
   0x06EFB06F2E06F0906F4E06F1906F1A06F2706F1806F3B06F1206EED06F0A06F3606F7306EF906EEE,
   0x06F2D06F4006F3006F3C06F3506EEB06F0706F0E06F4306F0506EFD06EF606F3906F1C06EFC06F3A,
   0x06F1F06F0D06F1E06F0806F210718707190071890718007185071820718F0717B071860718107197,
   0x0724407253072970729507293073430734D073510734C0746207473074710747507472074670746E,
   0x0750007502075030757D0759007616076080760C07615076110760A07614076B8077810777C07785,
   0x077820776E077800776F0777E07783078B2078AA078B4078AD078A80787E078AB0789E078A5078A0,
   0x078AC078A2078A4079980798A0798B079960799507994079930799707988079920799007A2B07A4A,
   0x07A3007A2F07A2807A2607AA807AAB07AAC07AEE07B8807B9C07B8A07B9107B9007B9607B8D07B8C,
   0x07B9B07B8E07B8507B980528407B9907BA407B8207CBB07CBF07CBC07CBA07DA707DB707DC207DA3,
   0x07DAA07DC107DC007DC507D9D07DCE07DC407DC607DCB07DCC07DAF07DB907D9607DBC07D9F07DA6,
   0x07DAE07DA907DA107DC907F7307FE207FE307FE507FDE080240805D0805C08189081860818308187,
   0x0818D0818C0818B0821508497084A4084A10849F084BA084CE084C2084AC084AE084AB084B9084B4,
   0x084C1084CD084AA0849A084B1084D00849D084A7084BB084A208494084C7084CC0849B084A9084AF,
   0x084A8084D608498084B6084CF084A0084D7084D4084D2084DB084B00849108661087330872308728,
   0x0876B087400872E0871E08721087190871B087430872C087410873E0874608720087320872A0872D,
   0x0873C087120873A087310873508742087260872708738087240871A0873008711088F7088E7088F1,
   0x088F2088FA088FE088EE088FC088F6088FB088F0088EC088EB0899D089A10899F0899E089E9089EB,
   0x089E808AAB08A9908A8B08A9208A8F08A9608C3D08C6808C6908CD508CCF08CD708D9608E0908E02,
   0x08DFF08E0D08DFD08E0A08E0308E0708E0608E0508DFE08E0008E0408F1008F1108F0E08F0D09123,
   0x0911C09120091220911F0911D0911A09124091210911B0917A091720917909173092A5092A409276,
   0x0929B0927A092A009294092AA0928D092A60929A092AB09279092970927F092A3092EE0928E09282,
   0x09295092A20927D09288092A10928A092860928C09299092A70927E09287092A90929D0928B0922D,
   0x0969E096A1096FF097580977D0977A0977E0978309780097820977B09784097810977F097CE097CD,
   0x09816098AD098AE0990209900099070999D0999C099C3099B9099BB099BA099C2099BD099C709AB1,
   0x09AE309AE709B3E09B3F09B6009B6109B5F09CF109CF209CF509EA7050FF0510305130050F805106,
   0x05107050F6050FE0510B0510C050FD0510A0528B0528C052F1052EF05648056420564C0563505641,
   0x0564A0564905646056580565A05640056330563D0562C0563E056380562A0563A0571A058AB0589D,
   0x058B1058A0058A3058AF058AC058A5058A1058FF05AFF05AF405AFD05AF705AF605B0305AF805B02,
   0x05AF905B0105B0705B0505B0F05C6705D9905D9705D9F05D9205DA205D9305D9505DA005D9C05DA1,
   0x05D9A05D9E05E6905E5D05E6005E5C07DF305EDB05EDE05EE105F4905FB20618B0618306179061B1,
   0x061B0061A2061890619B06193061AF061AD0619F06192061AA061A10618D06166061B30622D0646E,
   0x0647006496064A006485064970649C0648F0648B0648A0648C064A30649F06468064B10649806576,
   0x0657A065790657B065B2065B3066B5066B0066A9066B2066B7066AA066AF06A0006A0606A17069E5,
   0x069F806A15069F1069E406A20069FF069EC069E206A1B06A1D069FE06A27069F2069EE06A14069F7,
   0x069E706A4006A08069E6069FB06A0D069FC069EB06A0906A0406A1806A2506A0F069F606A2606A07,
   0x069F406A1606B5106BA506BA306BA206BA606C0106C0006BFF06C0206F4106F2606F7E06F8706FC6,
   0x06F9206F8D06F8906F8C06F6206F4F06F8506F5A06F9606F7606F6C06F8206F5506F7206F5206F50,
   0x06F5706F9406F9306F5D06F0006F6106F6B06F7D06F6706F9006F5306F8B06F6906F7F06F9506F63,
   0x06F7706F6A06F7B071B2071AF0719B071B0071A00719A071A9071B50719D071A50719E071A4071A1,
   0x071AA0719C071A7071B3072980729A07358073520735E0735F073600735D0735B073610735A07359,
   0x0736207487074890748A07486074810747D07485074880747C0747907508075070757E076250761E,
   0x076190761D0761C076230761A076280761B0769C0769D0769E0769B0778D0778F0778907788078CD,
   0x078BB078CF078CC078D1078CE078D4078C8078C3078C4078C90799A079A1079A00799C079A20799B,
   0x06B7607A3907AB207AB407AB307BB707BCB07BBE07BAC07BCE07BAF07BB907BCA07BB507CC507CC8,
   0x07CCC07CCB07DF707DDB07DEA07DE707DD707DE107E0307DFA07DE607DF607DF107DF007DEE07DDF,
   0x07F7607FAC07FB007FAD07FED07FEB07FEA07FEC07FE607FE80806408067081A30819F0819E08195,
   0x081A20819908197082160824F0825308252082500824E08251085240853B0850F08500085290850E,
   0x085090850D0851F0850A085270851C084FB0852B084FA085080850C084F40852A084F208515084F7,
   0x084EB084F3084FC08512084EA084E908516084FE085280851D0852E08502084FD0851E084F608531,
   0x08526084E7084E8084F0084EF084F90851808520085300850B085190852F08662087560876308764,
   0x08777087E10877308758087540875B08752087610875A087510875E0876D0876A087500874E0875F,
   0x0875D0876F0876C0877A0876E0875C087650874F0877B087750876208767087690885A089050890C,
   0x089140890B0891708918089190890608916089110890E08909089A2089A4089A3089ED089F0089EC,
   0x08ACF08AC608AB808AD308AD108AD408AD508ABB08AD708ABE08AC008AC508AD808AC308ABA08ABD,
   0x08AD908C3E08C4D08C8F08CE508CDF08CD908CE808CDA08CDD08CE708DA008D9C08DA108D9B08E20,
   0x08E2308E2508E2408E2E08E1508E1B08E1608E1108E1908E2608E2708E1408E1208E1808E1308E1C,
   0x08E1708E1A08F2C08F2408F1808F1A08F2008F2308F1608F1709073090700906F090670906B0912F,
   0x0912B091290912A09132091260912E09185091860918A09181091820918409180092D0092C3092C4,
   0x092C0092D9092B6092CF092F1092DF092D8092E9092D7092DD092CC092EF092C2092E8092CA092C8,
   0x092CE092E6092CD092D5092C9092E0092DE092E7092D1092D3092B5092E1092C6092B40957C095AC,
   0x095AB095AE095B0096A4096A2096D30970509708097020975A0978A0978E09788097D0097CF0981E,
   0x0981D098260982909828098200981B09827098B209908098FA0991109914099160991709915099DC,
   0x099CD099CF099D3099D4099CE099C9099D6099D8099CB099D7099CC09AB309AEC09AEB09AF309AF2,
   0x09AF109B4609B4309B6709B7409B7109B6609B7609B7509B7009B6809B6409B6C09CFC09CFA09CFD,
   0x09CFF09CF709D0709D0009CF909CFB09D0809D0509D0409E8309ED309F0F09F100511C0511305117,
   0x0511A05111051DE05334053E105670056600566E0567305666056630566D056720565E056770571C,
   0x0571B058C8058BD058C9058BF058BA058C2058BC058C605B1705B1905B1B05B2105B1405B1305B10,
   0x05B1605B2805B1A05B2005B1E05BEF05DAC05DB105DA905DA705DB505DB005DAE05DAA05DA805DB2,
   0x05DAD05DAF05DB405E6705E6805E6605E6F05EE905EE705EE605EE805EE505F4B05FBC0619D061A8,
   0x06196061C5061B4061C6061C1061CC061BA061BF061B80618C064D7064D6064D0064CF064C9064BD,
   0x06489064C3064DB064F3064D9065330657F0657C065A2066C8066BE066C0066CA066CB066CF066BD,
   0x066BB066BA066CC0672306A3406A6606A4906A6706A3206A6806A3E06A5D06A6D06A7606A5B06A51,
   0x06A2806A5A06A3B06A3F06A4106A6A06A6406A5006A4F06A5406A6F06A6906A6006A3C06A5E06A56,
   0x06A5506A4D06A4E06A4606B5506B5406B5606BA706BAA06BAB06BC806BC706C0406C0306C0606FAD,
   0x06FCB06FA306FC706FBC06FCE06FC806F5E06FC406FBD06F9E06FCA06FA80700406FA506FAE06FBA,
   0x06FAC06FAA06FCF06FBF06FB806FA206FC906FAB06FCD06FAF06FB206FB0071C5071C2071BF071B8,
   0x071D6071C0071C1071CB071D4071CA071C7071CF071BD071D8071BC071C6071DA071DB0729D0729E,
   0x0736907366073670736C073650736B0736A0747F0749A074A0074940749207495074A10750B07580,
   0x0762F0762D076310763D076330763C076350763207630076BB076E60779A0779D077A10779C0779B,
   0x077A2077A3077950779907797078DD078E9078E5078EA078DE078E3078DB078E1078E2078ED078DF,
   0x078E0079A407A4407A4807A4707AB607AB807AB507AB107AB707BDE07BE307BE707BDD07BD507BE5,
   0x07BDA07BE807BF907BD407BEA07BE207BDC07BEB07BD807BDF07CD207CD407CD707CD007CD107E12,
   0x07E2107E1707E0C07E1F07E2007E1307E0E07E1C07E1507E1A07E2207E0B07E0F07E1607E0D07E14,
   0x07E2507E2407F4307F7B07F7C07F7A07FB107FEF0802A080290806C081B1081A6081AE081B9081B5,
   0x081AB081B0081AC081B4081B2081B7081A7081F208255082560825708556085450856B0854D08553,
   0x08561085580854008546085640854108562085440855108547085630853E0855B085710854E0856E,
   0x085750855508567085600858C085660855D08554085650856C0866308665086640879B0878F08797,
   0x0879308792087880878108796087980877908787087A30878508790087910879D08784087940879C,
   0x0879A087890891E08926089300892D0892E08927089310892208929089230892F0892C0891F089F1,
   0x08AE008AE208AF208AF408AF508ADD08B1408AE408ADF08AF008AC808ADE08AE108AE808AFF08AEF,
   0x08AFB08C9108C9208C9008CF508CEE08CF108CF008CF308D6C08D6E08DA508DA708E3308E3E08E38,
   0x08E4008E4508E3608E3C08E3D08E4108E3008E3F08EBD08F3608F2E08F3508F3208F3908F3708F34,
   0x09076090790907B09086090FA0913309135091360919309190091910918D0918F093270931E09308,
   0x0931F093060930F0937A093380933C0931B093230931209301093460932D0930E0930D092CB0931D,
   0x092FA0932509313092F9092F7093340930209324092FF0932909339093350932A093140930C0930B,
   0x092FE0930909300092FB09316095BC095CD095BE095B9095BA095B6095BF095B5095BD096A9096D4,
   0x0970B0971209710097990979709794097F0097F8098350982F09832099240991F09927099290999E,
   0x099EE099EC099E5099E4099F0099E3099EA099E9099E709AB909ABF09AB409ABB09AF609AFA09AF9,
   0x09AF709B3309B8009B8509B8709B7C09B7E09B7B09B8209B9309B9209B9009B7A09B9509B7D09B88,
   0x09D2509D1709D2009D1E09D1409D2909D1D09D1809D2209D1009D1909D1F09E8809E8609E8709EAE,
   0x09EAD09ED509ED609EFA09F1209F3D051260512505122051240512005129052F4056930568C0568D,
   0x0568605684056830567E056820567F05681058D6058D4058CF058D205B2D05B2505B3205B2305B2C,
   0x05B2705B2605B2F05B2E05B7B05BF105BF205DB705E6C05E6A05FBE05FBB061C3061B5061BC061E7,
   0x061E0061E5061E4061E8061DE064EF064E9064E3064EB064E4064E80658106580065B6065DA066D2,
   0x06A8D06A9606A8106AA506A8906A9F06A9B06AA106A9E06A8706A9306A8E06A9506A8306AA806AA4,
   0x06A9106A7F06AA606A9A06A8506A8C06A9206B5B06BAD06C0906FCC06FA906FF406FD406FE306FDC,
   0x06FED06FE706FE606FDE06FF206FDD06FE206FE8071E1071F1071E8071F2071E4071F0071E207373,
   0x0736E0736F07497074B2074AB07490074AA074AD074B1074A5074AF0751007511075120750F07584,
   0x07643076480764907647076A4076E9077B5077AB077B2077B7077B6077B4077B1077A8077F0078F3,
   0x078FD07902078FB078FC078F207905078F9078FE07904079AB079A807A5C07A5B07A5607A5807A54,
   0x07A5A07ABE07AC007AC107C0507C0F07BF207C0007BFF07BFB07C0E07BF407C0B07BF307C0207C09,
   0x07C0307C0107BF807BFD07C0607BF007BF107C1007C0A07CE807E2D07E3C07E4207E330984807E38,
   0x07E2A07E4907E4007E4707E2907E4C07E3007E3B07E3607E4407E3A07F4507F7F07F7E07F7D07FF4,
   0x07FF20802C081BB081C4081CC081CA081C5081C7081BC081E90825B0825A0825C08583085800858F,
   0x085A708595085A00858B085A30857B085A40859A0859E085770857C08589085A10857A0857808557,
   0x0858E08596085860858D085990859D08581085A2085820858808585085790857608598085900859F,
   0x08668087BE087AA087AD087C5087B0087AC087B9087B5087BC087AE087C9087C3087C2087CC087B7,
   0x087AF087C4087CA087B4087B6087BF087B8087BD087DE087B208935089330893C0893E0894108952,
   0x0893708942089AD089AF089AE089F2089F308B1E08B1808B1608B1108B0508B0B08B2208B0F08B12,
   0x08B1508B0708B0D08B0808B0608B1C08B1308B1A08C4F08C7008C7208C7108C6F08C9508C9408CF9,
   0x08D6F08E4E08E4D08E5308E5008E4C08E4708F4308F40090850907E091380919A091A20919B09199,
   0x0919F091A10919D091A0093A109383093AF0936409356093470937C093580935C093760934909350,
   0x09351093600936D0938F0934C0936A093790935709355093520934F09371093770937B093610935E,
   0x0936309367093800934E09359095C7095C0095C9095C3095C5095B7096AE096B0096AC097200971F,
   0x097180971D097190979A097A10979C0979E0979D097D5097D4097F109841098440984A0984909845,
   0x09843099250992B0992C0992A09933099320992F0992D099310993009998099A3099A109A02099FA,
   0x099F4099F7099F9099F8099F6099FB099FD099FE099FC09A0309ABE09AFE09AFD09B0109AFC09B48,
   0x09B9A09BA809B9E09B9B09BA609BA109BA509BA409B8609BA209BA009BAF09D3309D4109D6709D36,
   0x09D2E09D2F09D3109D3809D3009D4509D4209D4309D3E09D3709D4009D3D07FF509D2D09E8A09E89,
   0x09E8D09EB009EC809EDA09EFB09EFF09F2409F2309F2209F5409FA0051310512D0512E056980569C,
   0x056970569A0569D056990597005B3C05C6905C6A05DC005E6D05E6E061D8061DF061ED061EE061F1,
   0x061EA061F0061EB061D6061E9064FF06504064FD064F80650106503064FC06594065DB066DA066DB,
   0x066D806AC506AB906ABD06AE106AC606ABA06AB606AB706AC706AB406AAD06B5E06BC906C0B07007,
   0x0700C0700D0700107005070140700E06FFF0700006FFB0702606FFC06FF70700A07201071FF071F9,
   0x07203071FD07376074B8074C0074B5074C1074BE074B6074BB074C207514075130765C0766407659,
   0x0765007653076570765A076A6076BD076EC077C2077BA078FF0790C0791307914079090791007912,
   0x07911079AD079AC07A5F07C1C07C2907C1907C2007C1F07C2D07C1D07C2607C2807C2207C2507C30,
   0x07E5C07E5007E5607E6307E5807E6207E5F07E5107E6007E5707E5307FB507FB307FF707FF808075,
   0x081D1081D2081D00825F0825E085B4085C6085C0085C3085C2085B3085B5085BD085C7085C4085BF,
   0x085CB085CE085C8085C5085B1085B6085D208624085B8085B7085BE08669087E7087E6087E2087DB,
   0x087EB087EA087E5087DF087F3087E4087D4087DC087D3087ED087D8087E3087A4087D7087D908801,
   0x087F4087E8087DD089530894B0894F0894C0894608950089510894908B2A08B2708B2308B3308B30,
   0x08B3508B4708B2F08B3C08B3E08B3108B2508B3708B2608B3608B2E08B2408B3B08B3D08B3A08C42,
   0x08C7508C9908C9808C9708CFE08D0408D0208D0008E5C08E6208E6008E5708E5608E5E08E6508E67,
   0x08E5B08E5A08E6108E5D08E6908E5408F4608F4708F4808F4B091280913A0913B0913E091A8091A5,
   0x091A7091AF091AA093B50938C09392093B70939B0939D09389093A70938E093AA0939E093A609395,
   0x09388093990939F0938D093B109391093B2093A4093A8093B4093A3093A5095D2095D3095D1096B3,
   0x096D7096DA05DC2096DF096D8096DD097230972209725097AC097AE097A8097AB097A4097AA097A2,
   0x097A5097D7097D9097D6097D8097FA098500985109852098B8099410993C0993A09A0F09A0B09A09,
   0x09A0D09A0409A1109A0A09A0509A0709A0609AC009ADC09B0809B0409B0509B2909B3509B4A09B4C,
   0x09B4B09BC709BC609BC309BBF09BC109BB509BB809BD309BB609BC409BB909BBD09D5C09D5309D4F,
   0x09D4A09D5B09D4B09D5909D5609D4C09D5709D5209D5409D5F09D5809D5A09E8E09E8C09EDF09F01,
   0x09F0009F1609F2509F2B09F2A09F2909F2809F4C09F55051340513505296052F7053B4056AB056AD,
   0x056A6056A7056AA056AC058DA058DD058DB0591205B3D05B3E05B3F05DC305E7005FBF061FB06507,
   0x065100650D065090650C0650E06584065DE065DD066DE06AE706AE006ACC06AD106AD906ACB06ADF,
   0x06ADC06AD006AEB06ACF06ACD06ADE06B6006BB006C0C070190702707020070160702B0702107022,
   0x070230702907017070240701C0702A0720C0720A072070720207205072A5072A6072A4072A3072A1,
   0x074CB074C5074B7074C30751607660077C9077CA077C4077F10791D0791B079210791C079170791E,
   0x079B007A6707A6807C3307C3C07C3907C2C07C3B07CEC07CEA07E7607E7507E7807E7007E7707E6F,
   0x07E7A07E7207E7407E6807F4B07F4A07F8307F8607FB707FFD07FFE08078081D7081D50826408261,
   0x08263085EB085F1085ED085D9085E1085E8085DA085D7085EC085F2085F8085D8085DF085E3085DC,
   0x085D1085F0085E6085EF085DE085E208800087FA08803087F6087F7088090880C0880B08806087FC,
   0x08808087FF0880A08802089620895A0895B08957089610895C089580895D0895908988089B7089B6,
   0x089F608B5008B4808B4A08B4008B5308B5608B5408B4B08B5508B5108B4208B5208B5708C4308C77,
   0x08C7608C9A08D0608D0708D0908DAC08DAA08DAD08DAB08E6D08E7808E7308E6A08E6F08E7B08EC2,
   0x08F5208F5108F4F08F5008F5308FB4091400913F091B0091AD093DE093C7093CF093C2093DA093D0,
   0x093F9093EC093CC093D9093A9093E6093CA093D4093EE093E3093D5093C4093CE093C0093D2093E7,
   0x0957D095DA095DB096E1097290972B0972C0972809726097B3097B7097B6097DD097DE097DF0985C,
   0x098590985D09857098BF098BD098BB098BE099480994709943099A6099A709A1A09A1509A2509A1D,
   0x09A2409A1B09A2209A2009A2709A2309A1E09A1C09A1409AC209B0B09B0A09B0E09B0C09B3709BEA,
   0x09BEB09BE009BDE09BE409BE609BE209BF009BD409BD709BEC09BDC09BD909BE509BD509BE109BDA,
   0x09D7709D8109D8A09D8409D8809D7109D8009D7809D8609D8B09D8C09D7D09D6B09D7409D7509D70,
   0x09D6909D8509D7309D7B09D8209D6F09D7909D7F09D8709D6809E9409E9109EC009EFC09F2D09F40,
   0x09F4109F4D09F5609F5709F5805337056B2056B5056B3058E305B4505DC605DC705EEE05EEF05FC0,
   0x05FC1061F906517065160651506513065DF066E8066E3066E406AF306AF006AEA06AE806AF906AF1,
   0x06AEE06AEF0703C070350702F07037070340703107042070380703F0703A07039070400703B07033,
   0x070410721307214072A80737D0737C074BA076AB076AA076BE076ED077CC077CE077CF077CD077F2,
   0x079250792307927079280792407929079B207A6E07A6C07A6D07AF707C4907C4807C4A07C4707C45,
   0x07CEE07E7B07E7E07E8107E8007FBA07FFF08079081DB081D90820B082680826908622085FF08601,
   0x085FE0861B08600085F60860408609086050860C085FD08819088100881108817088130881608963,
   0x08966089B9089F708B6008B6A08B5D08B6808B6308B6508B6708B6D08DAE08E8608E8808E8408F59,
   0x08F5608F5708F5508F5808F5A0908D0914309141091B7091B5091B2091B30940B09413093FB09420,
   0x0940F09414093FE094150941009428094190940D093F509400093F7094070940E0941609412093FA,
   0x09409093F80940A093FF093FC0940C093F60941109406095DE095E0095DF0972E0972F097B9097BB,
   0x097FD097FE0986009862098630985F098C1098C2099500994E099590994C0994B0995309A3209A34,
   0x09A3109A2C09A2A09A3609A2909A2E09A3809A2D09AC709ACA09AC609B1009B1209B1109C0B09C08,
   0x09BF709C0509C1209BF809C4009C0709C0E09C0609C1709C1409C0909D9F09D9909DA409D9D09D92,
   0x09D9809D9009D9B09DA009D9409D9C09DAA09D9709DA109D9A09DA209DA809D9E09DA309DBF09DA9,
   0x09D9609DA609DA709E9909E9B09E9A09EE509EE409EE709EE609F3009F2E09F5B09F6009F5E09F5D,
   0x09F5909F910513A051390529805297056C3056BD056BE05B4805B4705DCB05DCF05EF1061FD0651B,
   0x06B0206AFC06B0306AF806B0007043070440704A070480704907045070460721D0721A072190737E,
   0x075170766A077D00792D079310792F07C5407C5307CF207E8A07E8707E8807E8B07E8607E8D07F4D,
   0x07FBB08030081DD086180862A086260861F086230861C08619086270862E0862108620086290861E,
   0x08625088290881D0881B08820088240881C0882B0884A0896D089690896E0896B089FA08B7908B78,
   0x08B4508B7A08B7B08D1008D1408DAF08E8E08E8C08F5E08F5B08F5D091460914409145091B90943F,
   0x0943B09436094290943D0943C09430094390942A094370942C0944009431095E5095E4095E309735,
   0x0973A097BF097E109864098C9098C6098C0099580995609A3909A3D09A4609A4409A4209A4109A3A,
   0x09A3F09ACD09B1509B1709B1809B1609B3A09B5209C2B09C1D09C1C09C2C09C2309C2809C2909C24,
   0x09C2109DB709DB609DBC09DC109DC709DCA09DCF09DBE09DC509DC309DBB09DB509DCE09DB909DBA,
   0x09DAC09DC809DB109DAD09DCC09DB309DCD09DB209E7A09E9C09EEB09EEE09EED09F1B09F1809F1A,
   0x09F3109F4E09F6509F6409F9204EB9056C6056C5056CB0597105B4B05B4C05DD505DD105EF206521,
   0x06520065260652206B0B06B0806B0906C0D070550705607057070520721E0721F072A90737F074D8,
   0x074D5074D9074D70766D076AD07935079B407A7007A7107C5707C5C07C5907C5B07C5A07CF407CF1,
   0x07E9107F4F07F87081DE0826B0863408635086330862C08632086360882C08828088260882A08825,
   0x08971089BF089BE089FB08B7E08B8408B8208B8608B8508B7F08D1508E9508E9408E9A08E9208E90,
   0x08E9608E9708F6008F62091470944C094500944A0944B0944F09447094450944809449094460973F,
   0x097E30986A09869098CB099540995B09A4E09A5309A5409A4C09A4F09A4809A4A09A4909A5209A50,
   0x09AD009B1909B2B09B3B09B5609B5509C4609C4809C3F09C4409C3909C3309C4109C3C09C3709C34,
   0x09C3209C3D09C3609DDB09DD209DDE09DDA09DCB09DD009DDC09DD109DDF09DE909DD909DD809DD6,
   0x09DF509DD509DDD09EB609EF009F3509F3309F3209F4209F6B09F9509FA20513D05299058E8058E7,
   0x0597205B4D05DD80882F05F4F062010620306204065290652506596066EB06B1106B1206B0F06BCA,
   0x0705B0705A0722207382073810738307670077D407C6707C6607E950826C0863A08640086390863C,
   0x086310863B0863E08830088320882E08833089760897408973089FE08B8C08B8E08B8B08B8808C45,
   0x08D1908E9808F6408F63091BC09462094550945D094570945E097C4097C50980009A5609A5909B1E,
   0x09B1F09B2009C5209C5809C5009C4A09C4D09C4B09C5509C5909C4C09C4E09DFB09DF709DEF09DE3,
   0x09DEB09DF809DE409DF609DE109DEE09DE609DF209DF009DE209DEC09DF409DF309DE809DED09EC2,
   0x09ED009EF209EF309F0609F1C09F3809F3709F3609F4309F4F09F7109F7009F6E09F6F056D3056CD,
   0x05B4E05C6D0652D066ED066EE06B130705F070610705D0706007223074DB074E5077D507938079B7,
   0x079B607C6A07E9707F890826D086430883808837088350884B08B9408B9508E9E08E9F08EA008E9D,
   0x091BE091BD091C20946B0946809469096E5097460974309747097C7097E509A5E09AD509B5909C63,
   0x09C6709C6609C6209C5E09C6009E0209DFE09E0709E0309E0609E0509E0009E0109E0909DFF09DFD,
   0x09E0409EA009F1E09F4609F7409F7509F76056D40652E065B806B1806B1906B1706B1A0706207226,
   0x072AA077D8077D90793907C6907C6B07CF607E9A07E9807E9B07E99081E0081E1086460864708648,
   0x089790897A0897C0897B089FF08B9808B9908EA508EA408EA30946E0946D0946F094710947309749,
   0x098720995F09C6809C6E09C6D09E0B09E0D09E1009E0F09E1209E1109EA109EF509F0909F4709F78,
   0x09F7B09F7A09F790571E0706607C6F0883C08DB208EA6091C30947409478094760947509A6009C74,
   0x09C7309C7109C7509E1409E1309EF609F0A09FA4070680706507CF70866A0883E0883D0883F08B9E,
   0x08C9C08EA908EC90974B0987309874098CC09961099AB09A6409A6609A6709B2409E1509E1709F48,
   0x0620706B1E072270864C08EA809482094800948109A6909A6809B2E09E19072290864B08B9F09483,
   0x09C7909EB70767509A6B09C7A09E1D070690706A09EA409F7E09F4909F9807881092B9088CF058BB,
   0x0605207CA705AFA025540256602557025600256C025630255A025690255D0255202564025550255E,
   0x0256A0256102558025670255B0255302565025560255F0256B0256202559025680255C0255102550,
   0x0256D0256E025700256F0FFED20547092DB205DF23FC50854C042B5073EF051B50364924942289E4,
   0x09344219DB082EE23CC80783C06744062DF24933289AA202A026BB32130504FAB224ED0500826D29,
   0x27A842360024AB122513050292037E05FA4203802034706EDB2041F0507D051010347A0510E0986C,
   0x0374308416249A42048705160233B40516A20BFF220FC202E5225302058E232332198305B820877D,
   0x205B323C99051B2051B809D34051C9051CF051D103CDC051D324AA6051B3051E205342051ED083CD,
   0x0693E2372D05F7B0520B052260523C052B50525705294052B9052C507C1508542052E00860D26B13,
   0x0530528ADE0554906ED923F802095423FEC053330534420BE206CCB217260681B073D50604A03EAA,
   0x038CC216E8071DD044A20536D05374286AB0537E0537F2159621613077E60539328A9B053A0053AB,
   0x053AE073A72577203F590739C053C1053C506C4904E49057FE053D903AAB20B8F053E023FEB22DA3,
   0x053F620C7705413070790552B0665706D5B0546D26B5320D740555D0548F054A4047A62170D20EDD,
   0x03DB420D4D289BC226980554704CED0542F0741705586055A905605218D72403A0455224435066B3,
   0x210B405637066CD2328A066A4066AD0564D0564F078F1056F109787053FE05700056EF056ED28B66,
   0x036232124F05746241A506C6E0708B05742036B126C7E057E6214160580321454243630582624BF5,
   0x0585C058AA03561058E0058DC2123C058FB05BFF057432A15024278093D3035A10591F068A6036C3,
   0x06E592163E05A24055532169208505059C920D4E26C8126D2A217DC059D9217FB217B226DA606D71,
   0x21828216D5059F926E4505AAB05A63036E6249A905A770370805A960746505AD326FA12255403D85,
   0x2191103732216B805E83052D005B760658805B7C27A0E040040485D2020405BD50616021A34259CC,
   0x205A505BF305B9D04D1005C0521B4405C13073CE05C1421CA526B2805C49048DD05C8505CE905CEF,
   0x05D8B21DF921E3705D1005D1805D4621EA405CBA05DD7082FC0382D2490122049221730828703836,
   0x03BC205E2E06A8A05E7505E7A244BC20CD3053A604EB705ED0053A82177105E0905EF42848205EF9,
   0x05EFB038A005EFC0683E0941B05F0D201C12F89403ADE048AE2133A05F3A26888223D005F5822471,
   0x05F63097BD26E6E05F720934028A3605FA705DB603D5F2525021F6A270F822668091D62029E28A29,
   0x0603106685218770396303DC70363905790227B40797103E400609E060A4060B3249822498F27A53,
   0x074A4050E105AA00616408424061422F8A626ED206181051F4206560618705BAA23FB72285F061D3,
   0x28B9D2995D061D00393222980228C1060230615C0651E0638B20118062C521770062D522E0D0636C,
   0x249DF03A1706438063F82138E217FC0649006F8A22E36098142408C2571D064E1064E50947B03A66,
   0x0643A03A570654D06F1624A2824A23065850656D0655F2307E065B52494004B37065D1040D821829,
   0x065E0065E305FDF2340006618231F7231F806644231A4231A50664B20E7506667251E60667306674,
   0x21E3D23231285F4231C825313077C5228F7099A4067022439C24A2103B2B069FA237C20675E06767,
   0x06762241CD290ED067D7044E90682206E500923C06801233E626DA00685D2346F069E106A0B28ADF,
   0x06973068C3235CD069010690003D3203A012363C03B80067AC0696128A4A042FC069360699803BA1,
   0x203C90836305090069F9236592212A06A452370306A9D03BF3067B106AC82919C03C0D06B1D20923,
   0x060DE06B3506B74227CD06EB523ADB203B521958037400542123B5A06BE123EFC06BDC06C372248B,
   0x248F126B5106C5A0822606C7923DBC044C523DBD241A42490C2490023CC9036E503CEB20D3209B83,
   0x231F92249107F8F0683726D2526DA126DEB06D9606D5C06E7C06F042497F2408526E720853326F74,
   0x051C706C9C06E1D0842E28B2106E2F23E2F0745323F82079CC06E4F05A912304B06FF80370D06F9D,
   0x23E3006EFA214972403D04555093F006F4406F5C03D4E06F742917003D3B06F9F2414406FD324091,
   0x241552403923FF023FB42413F051DF241562415724140261DD0704B0707E070A707081070CC070D5,
   0x070D6070DF0410403DE8071B407196242770712B0714505A880714A0716E05C9C243650714F09362,
   0x242C10712C2445A24A2724A22071BA28BE8070BD0720E09442072150591109443072240934125605,
   0x0722E0724024974068BD072550725703E55230440680D06F3D072820732A0732B248232882B048ED,
   0x28804073280732E073CF073AA20C3A26A2E073C907449241E2216E724A2406623036C5249B72498D,
   0x249FB073F7074150690324A2607439205C303ED70745C228AD0746028EB207447073E407476083B9,
   0x0746C0373007474093F106A2C074820495324A8C2415F24A7928B8F05B4628C032189E074C821988,
   0x0750E074E90751E28ED921A4B05BD728EAC093850754D0754A075670756E24F8203F0424D130758E,
   0x0745D0759E075B4076020762C076510764F0766F07676263F507690081EF037F8269112690E076A1,
   0x076A5076B7076CC26F9F084622509D2517D21E1C0771E0772607740064AF2522007758232AC077AF,
   0x2896428968216C1077F4078092137624A12068CA078AF078C7078D3096A50792E255E0078D707934,
   0x078B12760C08FB80888428B2B260832261C07986089000690207980258570799D27B390793C079A9,
   0x06E2A2712603EA8079C62910D079D400000000000000000000000000000000000000000000000000]

end JavaFormat.Charset.Table
