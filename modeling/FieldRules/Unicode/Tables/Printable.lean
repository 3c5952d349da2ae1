import FieldRules.Unicode.Packed

/-!
Characters that have no visible form of their own.
-/

namespace FieldRules.Unicode.Tables

/-- Ranges of controls, format characters, separators other than the space, private and unassigned
code points. -/
def unprintable : Packed where
  keyBits := 21
  width := 42
  perRow := 8
  size := 701
  rows := #[
    0x1d1000e880071a0038d001c5800e2c0070600380001bc800de00015a000ad000500001fc0003e00000,
    0x30e00187000c0a005f5002f70017ac00b9e005c8002c800164000b180058b002ac00155c00a6000530,
    0x42e8021700107e0083f004178020b800ff8007fb003df801ec800e980074b00387801c3800dba006dd,
    0x4d48026a40132400991004c70026340130800984004710023880112e0088f004378021ac010be0085f,
    0x4ef002778013b6009d8004eb00273c01394009c9004e300271401376009ba004da8026cc01362009b1,
    0x51a0028d00146200a31005148028a40142400a110050700282c0140800a04005000027fc013ca009e4,
    0x52e802974014b000a52005280029380149400a490052300290c0147a00a3d0051d8028e80146e00a37,
    0x55a002ad00156200ab100554802aa40152400a9200547002a380150800a84005400029dc014ca00a5f,
    0x580002c00015f000af200572802b90015be00ad100567802b380159400aca00563002b180157600aba,
    0x5a3002d140167600b3a0059a002cd00166200b3100594802ca40162400b1100587002c340160800b04,
    0x5c6802e2c0170800b84005c0802de0016ca00b64005af002d78016b600b58005aa002d380169400b49,
    0x5de802ee80175a00bab005d3802e940174400ba0005ce802e740173600b9b005cc002e580172200b91,
    0x6088030440181a00c0d005ff802fec017ca00bd8005eb002f440179e00bce005e4802f240178a00bc3,
    0x62f803178018b800c5b0062b80315c018a800c4e006248031240188a00c450061d8030e80185200c29,
    0x6628033140197600cba0065a0032d00195200ca9006488032440191a00c8d0063b0031c0018ca00c64,
    0x686803434019fe00cf3006780033c0019ca00ce40066f80337c019b800cd70066a0033380199200cc9,
    0x6cc80365c01b0800d84006c000360001aca00d64006a980354001a9200d49006a280351401a2200d11,
    0x6f280378001bae00dd7006ea80375401b9c00dcb006e480371c01b7e00dbe006de0036f001b6400db2,
    0x752003a9001d1600e8b00742803a1401d0600e830074000397001c7c00e3b007000037d401be200df0,
    0x7a4003d2001dfe00ee00076d803b6801d9e00ece00763803b1c01d8a00ec50075f803af801d4c00ea6,
    0x86780433802198010c80086300431801ffe00fdb007e6803f3401f7a00fbd007cc003e6001ee000f6d,
    0x958804ac40251e0128e00944804a24024be0125e0092c804964024ae01257009278049380249201249,
    0x9ae004d6c0262e0131600988804c44025ae012d700963804b1802582012c10095f804afc0256e012b6,
    0xb8f005c5802dfe016f900b4f805a7402d0001680009ff804ff8027ee013f6009cf804e68026fe0137d,
    0xbff805fe802fde017ea00bef805f7802efe0177400bb8805dc402eda0176d00baf805d5002e7e01737,
    0xc9f8064f00325e0192c00c8f80647c031fe018f600c578062ac030fe0187900c0f8060680301c0180e,
    0xd2f80697c0343a01a1c00cee80676c0339e019ca00cd78066b0032fe0197500cb78065b80328601941,
    0xdfd806fd0036fe01b7f00da7806d34035fe01acf00d57806ab80353e01a9a00d47806a28034fc01a7d,
    0xf8f807c7803e2e01f1600e7f8073ec0399e01cc800e5e0072ec0391e01c8900e260071280387401c38,
    0xfda807ed403efe01f7e00faf007d7803eb801f5c00fad007d6803eb001f5800fa7807d3803e8e01f46,
    0x103780817c0405e0202801007807ffc03fea01ff500ff8807fc003fb801fdc00fea807f5003f8a01fc5,
    0x122f80912c0487e02427010c7808630041fe020f1010678083040413e0209d0104780823c040e602072,
    0x16bf00b5c405adc02d680169780b4b805a5802d280169300b498059f002cf4015cb00ae58056ea02b74,
    0x16eb80b75c05b9e02dcf016e380b71c05b7e02dbf016db80b6dc05b5e02daf016d380b69c05b3e02d97,
    0x184c00c25c06080030400180000bff005fde02fd60177f80bbd005d3402e9a0173f80b97805bbe02ddf,
    0x531f8298b01499e0a4c7052478292340643e0321f018f780c7900631e0318f0189800c4c00620803100,
    0x543f82a1e01507e0a83a0541782a0b414fe20a7da053ea029f5014fa40a7d2053e7829f2c14dfe0a6f8,
    0x551f82a8dc153fe0a9ff054ee82a7681539c0a9ce054bf82a5f4152bc0a9540546f82a3681519a0a8c6,
    0x559382ac9c1563e0ab170558802ac3c156100ab070558002abdc155b40aac30552d82a9681549e0aa4e,
    0x7d3783e9b81f1fe0d7fc06be5035f1c1af5e0d7a4055ff82afe8157de0abee055b782adb01565e0ab2f,
    0x7da283ed141f6840fb4207d9f83ecfc1f67a0fb3d07d9b83ecdc1f6380fb1807d8903ec1c1f5fe0fada,
    0x7f3783f9b01fcce0fe6707f2983f94c1fc3e0fe1a07ef783f7401fb9c0fdc807ec883f6401f7a40fbc3,
    0x7ff383ff9c1ffbe0ffdd07fec83ff601ffa20ffd007fe483ff201ff820ffbf07f8003fbf41fcea0fe75,
    0x803f8401782009e1004e0801f0400f8200761003b0801384009c200181000c07fff83fff81fff60ffef,
    0x814f840a74204fe101fe080e78406842033e1019d080c784063c2026c101340808304040c201fe100fb,
    0x81ff840f582078e103c4081cf040e78206fe1037b081a7840d2c20658103240817f840bf0205be102d1,
    0x82c584162c20af61057b082b704159020a5e105280827f8413f0209ae104d4082578412a82093e1049e,
    0x83af841d5820e7e10737082ff8416f420b74105ba082d90416c820b44105a2082cb04165820b2610593,
    0x841d8420e42106c10836084048420242100e10806083ff841eec20f62107b1083c3041e1820efe10768,
    0x849f0424e82123c1091c0847d0423d8211e6108f30846f8422c02114c1089f0842b0421582107c1083d,
    0x851b8428d82143010a180850a0428502141610a0708502042810213a2109d0084dd8426e0212fe10940,
    0x85ab842d582167010b360857f842bdc215d410ae70855f842a80214be10a59085278429242147c10a3b,
    0x86978434a0219f210cf30865f8432cc218fe10c49085ff842ec02175010b9d085cc042e48216ee10b73,
    0x87d7843e2821ede10f5a08797843ca021dfe10eb208757843ab821d5410eaa0873f8439fc21cbe10d3a,
    0x887f8443e8221de110e90886784430c2217a110bd0883f0441d8220a21104e087ff843fdc21fbe10fcc,
    0x8943844a1c224fe1123f08909044848223fe111f5088f0044780222fe11177088a78445202226a11135,
    0x8987044c3422608113040897f844be8225de112eb08957844aa82253c1129e08947044a382251211289,
    0x89a7844d382269411349089a3044d14226741133a0899a044cd0226621133108994844ca42262411311,
    0x8a67845320228fe1146208a2e045170227fe11375089b7844db4226ca11364089ae044d60226ac11351,
    0x8b7f845b2822d7e116ba08b3f8459b422cbe1165a08b2784591422bfe115de08adb8456d822afe114da,
    0x8c8a046450232161190a08c8404641c231fc118f308c4f8460f022ffe1174708b97845cb022e381171b,
    0x8cff846794233b2119d808cd48466a02333e1195a08ca784651c232741193908c9b0464d82322e11917,
    0x8e48847240238de11c6d08e278471182386e11c3708e04847024237fe11af908d57846a8c2349e11a48,
    0x8ea784752023a7c11d3e08e9d8474ec23a7211d3708e8504742823a0e11d0708e7f8472dc2395011ca8,
    0x8fd7847be423dbe11daa08ecf84766423b2411d9208ec784763c23ad211d6908eb304759823abe11d5a,
    0xa1ff84d0bc25ffe12ff3097c7849510248fe12475092378491bc247fe1239a08fff047fc823f7e11fb1,
    0xb57f85abd82d5de16aee0b56785ab282d57e16abf0b53685a9a82d4be16a5f0b51f85a8e42cffe14647,
    0xb7c705be202de9c16f4b0b77f85ba6c2dc7e16b900b5be05ade02d6c416b620b5ad05ad682d69e16b46,
    0xd7fe06bff035fe81aff40d7f7863424319fe18cd60c3ff861fe02dffe16ff20b7f785bf942dfbe16fa0,
    0xde4786f224378fe1bc7d0de3786f1ac377fe1b2fc0d8b786c5a0362c61b1530d8a786c48c35ffe1afff,
    0xe8bd0745cc3a2501d1270e87f8743d839ffe1cfc40e7a7873d1c39e5e1cf2e0e77f86f280379361bc9a,
    0xea508752803a93a1d49d0ea2a8751543a7fe1d3790e9af874d5c3a5fe1d2f40e96f8749183a3fe1d1eb,
    0xea8607542c3aa0c1d5060ea620753103a9781d4bc0ea5d0752e83a95a1d4ad0ea5407529c3a9481d4a3,
    0xeb53875a983aaa21d5510eaa487551c3aa8a1d5450ea9f8754fc3aa741d53a0ea8e8754743aa2a1d515,
    0xf0110780883c0341e0190f00387801c3bffe1df1f0ef7f876ac03b5401daa00ed4d076a303af9a1d7cc,
    0xf17f078be83c57e1e2af0f1478785403c29a1e14a0f09f8784f83c25e1e12d0f07f8780ac3c04a1e025,
    0xf4a787a5303d1fe1e8d70f46307a3143cffe1e7ff0f3f7879fbc3cfd81e7ec0f3f3879f9c3cfbe1e300,
    0xf71307b8943dc461ee230f71007b8803dc081ee040f6ff87b4f83da001ecb50f63807a5803d2ba1e95a,
    0xf72507b9283dc901ee480f72307b90c3dc821ee3c0f71d07b8e83dc701ee380f71987b8cc3dc501ee28,
    0xf72f07b9783dcb81ee5c0f72d07b9683dcb01ee580f72b07b9543dca61ee530f72807b9403dc981ee4c,
    0xf73f87b9fc3dcfa1ee7d0f73c07b9e03dce61ee730f73587b9ac3dccc1ee650f73187b98c3dcc01ee60,
    0xf84f87c2503e05e1f02c0f7ff87bbc83ddde1eebc0f75507baa83dd481eea40f75007ba703dd141ee8a,
    0xf92787c9243e47e1f23c0f90787c80c3e3ca1f1ae0f87f87c3d83e1a01f0d00f86007c3003e1601f0af,
    0xfbf787dfb03efbe1f7d90fbbf87ddd03edfe1f6fd0fb7787dbb43edb81f6d80f97f87c9983e4be1f252,
    0xfd2f87e9503f1fe1f8b20fc5787e2b83f11e1f8880fc2f87e1683f09e1f8480fc0787e0303effe1f7f1,
    0xfd6f87eb683f59e1fac60fd5f87eaec3f55e1faad0fd4787ea1c3f4fe1fa7d0fd3b87e9d43f4de1fa6e,
    0x15c0f8ae07856e7e2b7391537f8a9b803fffe1fbfa0fdf787ef2c3f7261fb930fd7f87ebdc3f5de1fae8,
    0x21fffee01f07007f8c4d2c5fffe2fa1e17bff8baf8459d5e2cea2]

end FieldRules.Unicode.Tables
